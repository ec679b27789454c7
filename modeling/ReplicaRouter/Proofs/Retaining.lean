import ReplicaRouter.Proofs.Holding
/-
What read/write splitting does with the links that it holds. Wherever its programs wait, the links in their places
are all that the logical connection has to see to, apart from what the program was given.
Main statements: `Split.deals_switchTo`, `Split.deals_rotateReader` and `Split.deals_discardKept`.
-/
namespace ReplicaRouter

open Charge World Splitter

variable {D α β : Type} [Backend D]

/-- What read/write splitting has to see to on its own. -/
def Splitter.held (s : Splitter) : Multiset Charge :=
  Link.heldIn (s.writer.map Prod.fst) + Link.heldIn (s.reader.map Prod.fst) + Link.heldIn s.stale

namespace Split

/-- Wherever the program stops, the world was reached by moves; what the program has in the end is what the logical
connection holds, and something besides. -/
def Deals (T : Terms D) (x : Split D α) (s : Splitter) (v : Service) (w : World D) (rest : Multiset Charge)
    (Q : α → Splitter → Service → Multiset Charge → World D → Prop) : Prop :=
  World.Deals T ((x.run s).run v) w rest fun r own u =>
    ∃ b, own = b + (r.1.2.held + r.2.held) ∧ Q r.1.1 r.1.2 r.2 b u

variable {T : Terms D} {s : Splitter} {v : Service} {w : World D} {a f rest : Multiset Charge}

theorem deals_pure {r : α} {Q : α → Splitter → Service → Multiset Charge → World D → Prop}
    (hw : Reached T w (a + (s.held + v.held) + rest)) (hq : Q r s v a w) : Deals T (pure r) s v w rest Q :=
  World.deals_pure hw ⟨a, rfl, hq⟩

theorem deals_bind {x : Split D α} {k : α → Split D β} {Q : α → Splitter → Service → Multiset Charge → World D → Prop}
    {Q' : β → Splitter → Service → Multiset Charge → World D → Prop} (hx : Deals T x s v w rest Q)
    (hk : ∀ r s' v' b u rest, w.Follows T u → Q r s' v' b u → Reached T u (b + (s'.held + v'.held) + rest) →
      Deals T (k r) s' v' u rest Q') : Deals T (x >>= k) s v w rest Q' := by
  refine World.deals_bind hx ?_
  rintro ⟨⟨r, s'⟩, v'⟩ _ u rest hf ⟨b, rfl, hq⟩ hu
  exact hk r s' v' b u rest hf hq hu

theorem deals_imp {x : Split D α} {Q Q' : α → Splitter → Service → Multiset Charge → World D → Prop}
    (hx : Deals T x s v w rest Q) (hq : ∀ r s' v' b u, w.Follows T u → Q r s' v' b u → Q' r s' v' b u) :
    Deals T x s v w rest Q' := fun now =>
  (hx now).along.imp fun _ _ _ ⟨hf, b, hb, h⟩ => ⟨b, hb, hq _ _ _ _ _ hf h⟩

section

variable {Q : β → Splitter → Service → Multiset Charge → World D → Prop}

theorem deals_get_bind {k : Splitter → Split D β} (h : Deals T (k s) s v w rest Q) :
    Deals T (get >>= k) s v w rest Q :=
  h

theorem deals_service_bind {k : Service → Split D β} (h : Deals T (k v) s v w rest Q) :
    Deals T (Split.act get >>= k) s v w rest Q :=
  h

theorem deals_look_bind {k : World D → Split D β} (h : Deals T (k w) s v w rest Q) :
    Deals T (Split.world get >>= k) s v w rest Q :=
  h

theorem deals_usable_bind {k : Option HostLink → Split D β} (h : Deals T (k (s.usable v w)) s v w rest Q) :
    Deals T (usable? >>= k) s v w rest Q :=
  h

theorem deals_hosts_bind {k : List Host → Split D β} (h : Deals T (k w.hosts.topology) s v w rest Q) :
    Deals T (Split.act Service.hosts >>= k) s v w rest Q :=
  h

end

/-- What is held may be exchanged for something else that is to be seen to. -/
theorem deals_modify {g : Splitter → Splitter} {b : Multiset Charge} (hw : Reached T w (a + (s.held + v.held) + rest))
    (hb : a + s.held = b + (g s).held) :
    Deals T (modify g) s v w rest fun _ s' v' b' _ => g s = s' ∧ v = v' ∧ b = b' :=
  World.deals_pure (hw.of_eq (by rw [← add_assoc a, hb, add_assoc b])) ⟨b, rfl, rfl, rfl, rfl⟩

/-- For an act of the logical connection the splitter is somebody else. -/
theorem reached_act (hw : Reached T w (a + (s.held + v.held) + rest)) :
    Reached T w (a + v.held + (s.held + rest)) :=
  hw.of_eq (by abel)

theorem deals_act {x : Act D α} {Q : α → Service → Multiset Charge → World D → Prop}
    (hx : Act.Deals T x v w (s.held + rest) Q) :
    Deals T (Split.act x) s v w rest fun r s' v' b u => s = s' ∧ Q r v' b u := by
  refine World.deals_bind (fun now => (hx now).frame) ?_
  rintro ⟨r, v'⟩ _ u rest - ⟨_, rfl, b, rfl, hq⟩ hu
  exact World.deals_pure hu ⟨b, by abel, rfl, hq⟩

/-- Work on the shared world leaves what the connection holds alone. -/
theorem deals_world {x : Routine (World D) α} {Q : α → Multiset Charge → World D → Prop}
    (hx : ∀ rest, Reached T w (f + rest) → World.Deals T x w rest Q)
    (hw : Reached T w (f + a + (s.held + v.held) + rest)) :
    Deals T (Split.world x) s v w rest fun r s' v' b u => s = s' ∧ v = v' ∧ ∃ g, b = g + a ∧ Q r g u :=
  deals_act (Act.deals_world hx (reached_act hw))

/-- Work that takes nothing and has nothing in the end. -/
theorem deals_work {x : Routine (World D) α} {Q : α → World D → Prop}
    (hx : ∀ rest, Reached T w rest → World.Deals T x w rest fun r own u => own = 0 ∧ Q r u)
    (hw : Reached T w (a + (s.held + v.held) + rest)) :
    Deals T (Split.world x) s v w rest fun r s' v' b u => s = s' ∧ v = v' ∧ a = b ∧ Q r u :=
  deals_act (Act.deals_work hx (reached_act hw))

theorem deals_log (level : LogLevel) (text : String) (hw : Reached T w (a + (s.held + v.held) + rest)) :
    Deals T (Split.world (World.log level text)) s v w rest fun _ s' v' b _ => s = s' ∧ v = v' ∧ a = b :=
  deals_act (Act.deals_idle (idles_log level text) (reached_act hw))

theorem deals_signal (sg : Signal) (hw : Reached T w (a + (s.held + v.held) + rest)) :
    Deals T (Split.act (Service.signal sg)) s v w rest fun _ s' v' b _ => s = s' ∧ v = v' ∧ a = b :=
  deals_act (Service.deals_signal sg (reached_act hw))

/-! ## Links in their places -/

section Places

variable {l : HostLink} {k : Link}

theorem valid_of_held (hw : Reached T w (a + (s.held + v.held) + rest)) (h : k.held ≤ s.held) : k.Valid w := by
  refine Link.valid_of_held hw (le_trans h ?_)
  rw [add_left_comm, add_assoc]
  exact Multiset.le_add_right _ _

/-- Whoever was given a link may put it into a place. -/
theorem valid_of_offered (ho : Link.Offered w (some k) f) (hw : Reached T w (f + a + (s.held + v.held) + rest)) :
    k.Valid w :=
  ho.valid (hw.of_eq (by rw [add_assoc, add_assoc]))

theorem valid_in_hand (hw : Reached T w (k.held + a + (s.held + v.held) + rest)) : k.Valid w := by
  refine Link.valid_of_held hw ?_
  rw [add_assoc, add_assoc]
  exact Multiset.le_add_right _ _

theorem valid_of_writer (hw : Reached T w (a + (s.held + v.held) + rest))
    (h : openSlot w s.writer = some l) : l.1.Valid w := by
  refine valid_of_held hw ?_
  rw [Splitter.held, (Option.filter_eq_some_iff.1 h).1, add_assoc]
  exact Multiset.le_add_right _ _

theorem valid_of_reader (hw : Reached T w (a + (s.held + v.held) + rest))
    (h : openSlot w s.reader = some l) : l.1.Valid w := by
  refine valid_of_held hw ?_
  rw [Splitter.held, (Option.filter_eq_some_iff.1 h).1, add_right_comm]
  exact Multiset.le_add_left _ _

theorem valid_of_stale (hw : Reached T w (a + (s.held + v.held) + rest)) (h : s.stale = some k) : k.Valid w := by
  refine valid_of_held hw ?_
  rw [Splitter.held, h]
  exact Multiset.le_add_left _ _

theorem valid_of_usable (hw : Reached T w (a + (s.held + v.held) + rest)) (h : s.usable v w = some l) :
    l.1.Valid w := by
  have hcurrent : v.current = some l := (Option.filter_eq_some_iff.1 h).1
  exact Service.valid_of_current (reached_act hw) (by rw [Service.link?, hcurrent]; rfl)

end Places

/-- Puts a link into a place, held by it from now on. -/
theorem deals_holdLink {slot : Option Link} (ho : Link.Offered w slot f)
    (hw : Reached T w (f + a + (s.held + v.held) + rest)) :
    Deals T (if let some l := slot then Split.world l.hold else pure ()) s v w rest fun _ s' v' b _ =>
      s = s' ∧ v = v' ∧ b = Link.heldIn slot + a := by
  cases slot with
  | none =>
    cases ho with
    | nothing => exact deals_pure hw ⟨rfl, rfl, rfl⟩
  | some l =>
    refine deals_imp (deals_world (fun _ => Link.deals_hold ho) hw) ?_
    rintro _ _ _ _ _ - ⟨rfl, rfl, _, rfl, rfl⟩
    exact ⟨rfl, rfl, rfl⟩

theorem deals_letGoLink (slot : Option Link) (hw : Reached T w (Link.heldIn slot + a + (s.held + v.held) + rest)) :
    Deals T (if let some l := slot then Split.world l.letGo else pure ()) s v w rest fun _ s' v' b _ =>
      s = s' ∧ v = v' ∧ a = b := by
  cases slot with
  | none => exact deals_pure hw ⟨rfl, rfl, (zero_add a).symm⟩
  | some l =>
    refine deals_imp (deals_world (fun _ => Link.deals_letGo) hw) ?_
    rintro _ _ _ _ _ - ⟨rfl, rfl, _, rfl, rfl⟩
    exact ⟨rfl, rfl, (zero_add a).symm⟩

section Slots

variable {p : Option HostLink}

theorem deals_hold (ho : Link.Offered w (p.map Prod.fst) f)
    (hw : Reached T w (f + a + (s.held + v.held) + rest)) :
    Deals T (hold p) s v w rest fun _ s' v' b _ => s = s' ∧ v = v' ∧ b = Link.heldIn (p.map Prod.fst) + a := by
  cases p with
  | none => exact deals_holdLink ho hw
  | some l => exact deals_holdLink ho hw

theorem deals_letGo (hw : Reached T w (Link.heldIn (p.map Prod.fst) + a + (s.held + v.held) + rest)) :
    Deals T (letGo p) s v w rest fun _ s' v' b _ => s = s' ∧ v = v' ∧ a = b := by
  cases p with
  | none => exact deals_letGoLink none hw
  | some l => exact deals_letGoLink (some l.1) hw

end Slots

/-- What was put in hand goes into its place, and what was there goes out of hand. -/
theorem deals_replace {put : Splitter → Splitter} {new old : Option Link} {k : Split D Unit}
    (hput : Link.heldIn new + s.held = Link.heldIn old + (put s).held)
    (hk : ∀ u rest, Reached T u (Link.heldIn old + a + ((put s).held + v.held) + rest) →
      Deals T k (put s) v u rest fun _ s' v' b _ => put s = s' ∧ v = v' ∧ a = b)
    (hw : Reached T w (Link.heldIn new + a + (s.held + v.held) + rest)) :
    Deals T (modify put >>= fun _ => k) s v w rest fun _ s' v' b _ => put s = s' ∧ v = v' ∧ a = b := by
  have hswap : Link.heldIn new + a + s.held = Link.heldIn old + a + (put s).held := by
    rw [add_right_comm, hput, add_right_comm]
  refine deals_bind (deals_modify hw hswap) ?_
  rintro _ _ _ _ u rest - ⟨rfl, rfl, rfl⟩ hu
  exact hk u rest hu

section Slots

variable {p : Option HostLink}

/-- Another link is kept for writing, and the connection lets go of the one that was. -/
theorem deals_setWriter (ho : Link.Offered w (p.map Prod.fst) f)
    (hw : Reached T w (f + a + (s.held + v.held) + rest)) :
    Deals T (setWriter p) s v w rest fun _ s' v' b _ => { s with writer := p } = s' ∧ v = v' ∧ a = b := by
  refine deals_bind (deals_hold ho hw) ?_
  rintro _ _ _ _ u rest - ⟨rfl, rfl, rfl⟩ hu
  refine deals_get_bind (deals_replace ?_ (fun _ _ => deals_letGo) hu)
  simp only [Splitter.held]
  abel

theorem deals_setReader (ho : Link.Offered w (p.map Prod.fst) f)
    (hw : Reached T w (f + a + (s.held + v.held) + rest)) :
    Deals T (setReader p) s v w rest fun _ s' v' b _ => { s with reader := p } = s' ∧ v = v' ∧ a = b := by
  refine deals_bind (deals_hold ho hw) ?_
  rintro _ _ _ _ u rest - ⟨rfl, rfl, rfl⟩ hu
  refine deals_get_bind (deals_replace ?_ (fun _ _ => deals_letGo) hu)
  simp only [Splitter.held]
  abel

end Slots

theorem setStale_eq (stale : Option Link) : (setStale stale : Split D Unit) =
    (if let some l := stale then Split.world l.hold else pure ()) >>= fun _ => get >>= fun s =>
      modify (fun s => { s with stale }) >>= fun _ =>
        (if let some l := s.stale then Split.world l.letGo else pure ()) := by
  cases stale <;> rfl

theorem deals_setStale {stale : Option Link} (ho : Link.Offered w stale f)
    (hw : Reached T w (f + a + (s.held + v.held) + rest)) :
    Deals T (setStale stale) s v w rest fun _ s' v' b _ => { s with stale } = s' ∧ v = v' ∧ a = b := by
  rw [setStale_eq]
  refine deals_bind (deals_holdLink ho hw) ?_
  rintro _ _ _ _ u rest - ⟨rfl, rfl, rfl⟩ hu
  refine deals_get_bind (deals_replace ?_ (fun _ _ => deals_letGoLink _) hu)
  simp only [Splitter.held]
  abel

/-! ## Keeping the current link, and making links current -/

/-- The splitter may write down anything about itself but its links. -/
theorem deals_restate {g : Splitter → Splitter} (hg : (g s).held = s.held)
    (hw : Reached T w (a + (s.held + v.held) + rest)) :
    Deals T (modify g) s v w rest fun _ s' v' b _ => g s = s' ∧ v = v' ∧ a = b :=
  deals_modify hw (by rw [hg])

theorem deals_countSwitch (hw : Reached T w (a + (s.held + v.held) + rest)) :
    Deals T countSwitch s v w rest fun _ _ v' b _ => v = v' ∧ a = b := by
  refine deals_get_bind (deals_bind (deals_restate rfl hw) ?_)
  rintro _ _ _ _ u rest - ⟨rfl, rfl, rfl⟩ hu
  exact deals_imp (deals_signal _ hu) fun _ _ _ _ _ _ h => h.2

theorem deals_countFallback (hw : Reached T w (a + (s.held + v.held) + rest)) :
    Deals T countFallback s v w rest fun _ _ v' b _ => v = v' ∧ a = b := by
  refine deals_get_bind (deals_bind (deals_restate rfl hw) ?_)
  rintro _ _ _ _ u rest - ⟨rfl, rfl, rfl⟩ hu
  exact deals_imp (deals_signal _ hu) fun _ _ _ _ _ _ h => h.2

theorem deals_rememberCurrent {l : HostLink} (hl : l.1.Valid w) (hw : Reached T w (a + (s.held + v.held) + rest)) :
    Deals T (rememberCurrent l) s v w rest fun _ _ v' b _ => v = v' ∧ a = b := by
  have hoffered : Link.Offered w ((some l).map Prod.fst) 0 := .known hl
  have hzero : Reached T w (0 + a + (s.held + v.held) + rest) := by rwa [zero_add]
  refine deals_get_bind (deals_look_bind ?_)
  split
  · split
    · exact deals_imp (deals_setWriter hoffered hzero) fun _ _ _ _ _ _ h => h.2
    · exact deals_pure hw ⟨rfl, rfl⟩
  · split
    · exact deals_imp (deals_setReader hoffered hzero) fun _ _ _ _ _ _ h => h.2
    · exact deals_pure hw ⟨rfl, rfl⟩

/-- A link that is known becomes current, unless it is so already. -/
theorem deals_makeCurrent {l : HostLink} (hl : l.1.Valid w) (hv : v.Pooled)
    (hw : Reached T w (a + (s.held + v.held) + rest)) :
    Deals T (makeCurrent l) s v w rest fun _ _ v' b _ => v'.Pooled ∧ a = b := by
  have hzero : Reached T w (0 + a + (s.held + v.held) + rest) := by rwa [zero_add]
  refine deals_usable_bind ?_
  split
  · refine deals_bind (deals_act (Service.deals_setCurrent (.known hl) (reached_act hzero))) ?_
    rintro _ _ v' _ u rest - ⟨rfl, hv', rfl⟩ hu
    refine deals_imp (deals_countSwitch hu) ?_
    rintro _ _ _ _ _ - ⟨rfl, rfl⟩
    exact ⟨by rwa [Service.Pooled, hv'], rfl⟩
  · exact deals_pure hw ⟨hv, rfl⟩

/-! ## Finding links -/

section Finding

variable (hT : T.Liberal) (hv : v.Pooled)
include hT hv

/-- Whoever asks for a link keeps the right to put pools in, and is given the link, or nothing more. -/
theorem deals_connect {host : Host} {props : Properties}
    (hw : Reached T w ({licence} + a + (s.held + v.held) + rest)) :
    Deals T (Split.act (Service.connect host props)) s v w rest fun r s' v' b _ =>
      s = s' ∧ v = v' ∧
        ((∃ l, r = .ok l ∧ b = l.given + ({licence} + a)) ∨ (∃ e, r = .error e) ∧ b = {licence} + a) := by
  refine deals_imp (deals_act (Service.deals_connect hT hv (reached_act hw))) ?_
  rintro _ _ _ _ _ - ⟨rfl, rfl, _, rfl, (l | e)⟩
  · exact ⟨rfl, rfl, .inl ⟨l, rfl, add_assoc _ _ _⟩⟩
  · exact ⟨rfl, rfl, .inr ⟨⟨e, rfl⟩, rfl⟩⟩

/-- A link to the writer is found among those that are held, or is held from now on. -/
theorem deals_ensureWriter (hw : Reached T w ({licence} + a + (s.held + v.held) + rest)) :
    Deals T ensureWriter s v w rest fun r _ v' b u =>
      v = v' ∧ {licence} + a = b ∧ ∀ l, r = .ok l → l.1.Valid u := by
  refine deals_look_bind (deals_get_bind ?_)
  -- the writer is kept, is current, or has to be connected
  split
  · next l hl =>
    refine deals_pure hw ⟨rfl, rfl, ?_⟩
    rintro _ ⟨⟩
    exact valid_of_writer hw hl
  · refine deals_usable_bind ?_
    split
    · next l hl =>
      have hvalid := valid_of_usable hw (Option.filter_eq_some_iff.1 hl).1
      refine deals_bind (deals_setWriter (f := 0) (p := some l) (.known hvalid) (by rwa [zero_add])) ?_
      rintro _ _ _ _ u rest hf ⟨rfl, rfl, rfl⟩ hu
      refine deals_pure hu ⟨rfl, rfl, ?_⟩
      rintro _ ⟨⟩
      exact hvalid.later hf
    · refine deals_hosts_bind ?_
      split
      · exact deals_pure hw ⟨rfl, rfl, fun _ h => by cases h⟩
      · next host _ =>
        refine deals_get_bind (deals_bind (deals_connect hT hv hw) ?_)
        rintro _ _ _ _ u rest - ⟨rfl, rfl, (⟨l, rfl, rfl⟩ | ⟨⟨e, rfl⟩, rfl⟩)⟩ hu
        · have hvalid : l.Valid u := valid_of_offered (.given l) hu
          refine deals_bind (deals_setWriter (p := some (l, host)) (.given l) hu) ?_
          rintro _ _ _ _ x rest hf ⟨rfl, rfl, rfl⟩ hx
          refine deals_pure hx ⟨rfl, rfl, ?_⟩
          rintro _ ⟨⟩
          exact hvalid.later hf
        · exact deals_pure hu ⟨rfl, rfl, fun _ h => by cases h⟩

omit hT hv in
theorem deals_pick (n : Nat) (hw : Reached T w (a + (s.held + v.held) + rest)) :
    Deals T (pick n) s v w rest fun _ _ v' b _ => v = v' ∧ a = b :=
  World.deals_pure hw ⟨a, rfl, rfl, rfl⟩

theorem deals_tryReaders (room : Nat) (candidates : List Host)
    (hw : Reached T w ({licence} + a + (s.held + v.held) + rest)) :
    Deals T (tryReaders room candidates) s v w rest fun r _ v' b _ =>
      v = v' ∧ ((∃ l, r = some l ∧ b = l.1.given + ({licence} + a)) ∨ r = none ∧ b = {licence} + a) := by
  induction room generalizing candidates s w rest with
  | zero => exact deals_pure hw ⟨rfl, .inr ⟨rfl, rfl⟩⟩
  | succ room ih =>
    refine deals_bind (deals_pick _ hw) ?_
    rintro _ _ _ _ u rest - ⟨rfl, rfl⟩ hu
    split
    · exact deals_pure hu ⟨rfl, .inr ⟨rfl, rfl⟩⟩
    · next i host _ =>
      refine deals_get_bind (deals_bind (deals_connect hT hv hu) ?_)
      rintro _ _ _ _ x rest - ⟨rfl, rfl, (⟨l, rfl, rfl⟩ | ⟨⟨e, rfl⟩, rfl⟩)⟩ hx
      · exact deals_pure hx ⟨rfl, .inl ⟨(l, host), rfl, rfl⟩⟩
      · refine deals_bind (deals_log _ _ hx) ?_
        rintro _ _ _ _ y rest - ⟨rfl, rfl, rfl⟩ hy
        exact ih _ hy

theorem deals_connectReader (hw : Reached T w ({licence} + a + (s.held + v.held) + rest)) :
    Deals T connectReader s v w rest fun r _ v' b _ =>
      v = v' ∧ ((∃ l, r = some l ∧ b = l.1.given + ({licence} + a)) ∨ r = none ∧ b = {licence} + a) :=
  deals_hosts_bind (deals_tryReaders hT hv _ _ hw)

end Finding

/-! ## Switching -/

/-- A link is kept for reading and becomes current. -/
theorem deals_readFrom {l : HostLink} (ho : Link.Offered w (some l.1) f) (hv : v.Pooled)
    (hw : Reached T w (f + a + (s.held + v.held) + rest)) :
    Deals T (readFrom l) s v w rest fun _ _ v' b _ => v'.Pooled ∧ a = b := by
  have hvalid : l.1.Valid w := valid_of_offered ho hw
  refine deals_bind (deals_setReader (p := some l) ho hw) ?_
  rintro _ _ _ _ u rest hf ⟨rfl, rfl, rfl⟩ hu
  exact deals_makeCurrent (hvalid.later hf) hv hu

/-- The usable current link is remembered before anything else. -/
theorem deals_rememberUsable {cur : Option HostLink} {k : Split D β}
    {Q : β → Splitter → Service → Multiset Charge → World D → Prop} (hcur : ∀ l, cur = some l → l.1.Valid w)
    (hw : Reached T w (a + (s.held + v.held) + rest))
    (hk : ∀ s' u rest, Reached T u (a + (s'.held + v.held) + rest) → Deals T k s' v u rest Q) :
    Deals T (do
      if let some l := cur then rememberCurrent l
      k) s v w rest Q := by
  cases cur with
  | none => exact hk s w rest hw
  | some l =>
    refine deals_bind (deals_rememberCurrent (hcur l rfl) hw) ?_
    rintro _ s' _ _ u rest - ⟨rfl, rfl⟩ hu
    exact hk s' u rest hu

section Switching

variable (hT : T.Liberal) (hv : v.Pooled) (hw : Reached T w ({licence} + a + (s.held + v.held) + rest))
include hT hv hw

theorem deals_leaveForReader :
    Deals T leaveForReader s v w rest fun _ _ v' b _ => v'.Pooled ∧ {licence} + a = b := by
  refine deals_look_bind (deals_get_bind ?_)
  split
  · next l hl =>
    have hvalid := valid_of_reader hw hl
    refine deals_bind (deals_log _ _ hw) ?_
    rintro _ _ _ _ u rest hf ⟨rfl, rfl, rfl⟩ hu
    refine deals_bind (deals_makeCurrent (hvalid.later hf) hv hu) ?_
    rintro _ _ _ _ x rest - ⟨hv, rfl⟩ hx
    exact deals_pure hx ⟨hv, rfl⟩
  · refine deals_bind (deals_connectReader hT hv hw) ?_
    rintro _ _ _ _ u rest - ⟨rfl, (⟨l, rfl, rfl⟩ | ⟨rfl, rfl⟩)⟩ hu
    · refine deals_bind (deals_log _ _ hu) ?_
      rintro _ _ _ _ x rest - ⟨rfl, rfl, rfl⟩ hx
      refine deals_bind (deals_readFrom (.given l.1) hv hx) ?_
      rintro _ _ _ _ y rest - ⟨hv, rfl⟩ hy
      exact deals_pure hy ⟨hv, rfl⟩
    · -- the writer stands in
      refine deals_bind (deals_ensureWriter hT hv hu) ?_
      rintro (e | l) _ _ _ x rest - ⟨rfl, rfl, hl⟩ hx
      · exact deals_pure hx ⟨hv, rfl⟩
      · refine deals_bind (deals_log _ _ hx) ?_
        rintro _ _ _ _ y rest hf ⟨rfl, rfl, rfl⟩ hy
        refine deals_bind (deals_countFallback hy) ?_
        rintro _ _ _ _ z rest hf' ⟨rfl, rfl⟩ hz
        have hvalid := (hl l rfl).later (hf.trans hf')
        refine deals_bind (deals_readFrom (.known hvalid) hv (by rwa [zero_add])) ?_
        rintro _ _ _ _ _ rest - ⟨hv, rfl⟩ hz
        exact deals_pure hz ⟨hv, rfl⟩

theorem deals_leaveForOnlyHost :
    Deals T leaveForOnlyHost s v w rest fun _ _ v' b _ => v'.Pooled ∧ {licence} + a = b := by
  refine deals_bind (deals_ensureWriter hT hv hw) ?_
  rintro (e | l) _ _ _ x rest - ⟨rfl, rfl, hl⟩ hx
  · exact deals_pure hx ⟨hv, rfl⟩
  · refine deals_bind (deals_readFrom (.known (hl l rfl)) hv (by rwa [zero_add])) ?_
    rintro _ _ _ _ _ rest - ⟨hv, rfl⟩ hy
    exact deals_pure hy ⟨hv, rfl⟩

theorem deals_switchToReader :
    Deals T switchToReader s v w rest fun _ _ v' b _ => v'.Pooled ∧ {licence} + a = b := by
  refine deals_usable_bind (deals_rememberUsable (fun l hl => valid_of_usable hw hl) hw ?_)
  intro s u rest hu
  refine deals_get_bind ?_
  split
  · exact deals_pure hu ⟨hv, rfl⟩
  · refine deals_hosts_bind ?_
    dsimp only
    split
    · -- the link to the only host is kept for reading as well
      have hoffered : Link.Offered u (s.writer.map Prod.fst) 0 := by
        cases hwriter : s.writer with
        | none => exact .nothing
        | some l =>
          refine .known (valid_of_held hu ?_)
          rw [Splitter.held, hwriter, add_assoc]
          exact Multiset.le_add_right _ _
      refine deals_bind (deals_setReader hoffered (by rwa [zero_add])) ?_
      rintro _ _ _ _ x rest - ⟨rfl, rfl, rfl⟩ hx
      exact deals_pure hx ⟨hv, rfl⟩
    · refine deals_service_bind ?_
      split
      · exact deals_pure hu ⟨hv, rfl⟩
      · split
        · exact deals_leaveForOnlyHost hT hv hu
        · exact deals_leaveForReader hT hv hu

theorem deals_switchToWriter :
    Deals T switchToWriter s v w rest fun _ _ v' b _ => v'.Pooled ∧ {licence} + a = b := by
  refine deals_usable_bind (deals_rememberUsable (fun l hl => valid_of_usable hw hl) hw ?_)
  intro s u rest hu
  refine deals_get_bind ?_
  split
  · exact deals_pure hu ⟨hv, rfl⟩
  · refine deals_service_bind ?_
    split
    · exact deals_pure hu ⟨hv, rfl⟩
    · refine deals_bind (deals_ensureWriter hT hv hu) ?_
      rintro (e | l) _ _ _ x rest - ⟨rfl, rfl, hl⟩ hx
      · exact deals_pure hx ⟨hv, rfl⟩
      · refine deals_bind (deals_log _ _ hx) ?_
        rintro _ _ _ _ y rest hf ⟨rfl, rfl, rfl⟩ hy
        refine deals_bind (deals_makeCurrent ((hl l rfl).later hf) hv hy) ?_
        rintro _ _ _ _ _ rest - ⟨hv, rfl⟩ hz
        exact deals_pure hz ⟨hv, rfl⟩

end Switching

/-- A link that is in hand is closed and let go. -/
theorem deals_giveUp {l : Link} (hl : l.Valid w) (hw : Reached T w (l.held + a + (s.held + v.held) + rest)) :
    Deals T (Split.world l.closeQuietly >>= fun _ => Split.world l.letGo) s v w rest fun _ s' v' b _ =>
      s = s' ∧ v = v' ∧ a = b := by
  refine deals_bind (deals_work (fun _ => Link.deals_closeQuietly hl) hw) ?_
  rintro _ _ _ _ u rest - ⟨rfl, rfl, rfl, -⟩ hu
  exact deals_letGoLink (some l) hu

theorem deals_releaseStale (hw : Reached T w (a + (s.held + v.held) + rest)) :
    Deals T releaseStale s v w rest fun _ _ v' b _ => v = v' ∧ a = b := by
  refine deals_get_bind (deals_service_bind ?_)
  split
  · split
    · next l hl =>
      have hvalid := valid_of_stale hw hl
      have hswap : a + s.held = l.held + a + ({ s with stale := none } : Splitter).held := by
        simp only [Splitter.held, hl]
        show a + (_ + l.held) = l.held + a + (_ + 0)
        abel
      refine deals_bind (deals_modify hw hswap) ?_
      rintro _ _ _ _ u rest hf ⟨rfl, rfl, rfl⟩ hu
      refine deals_bind (deals_log _ _ hu) ?_
      rintro _ _ _ _ x rest hf' ⟨rfl, rfl, rfl⟩ hx
      exact deals_imp (deals_giveUp (hvalid.later (hf.trans hf')) hx) fun _ _ _ _ _ _ h => h.2
    · exact deals_pure hw ⟨rfl, rfl⟩
  · exact deals_pure hw ⟨rfl, rfl⟩

/-- How a switch ended is told to telemetry. -/
theorem deals_tellSwitch (sg : Signal) (result : Except RouteError Unit)
    (hw : Reached T w (a + (s.held + v.held) + rest)) :
    Deals T (do
      Split.act (Service.signal sg)
      Split.act (Service.signal (.ended switchWork))
      return result) s v w rest fun _ _ v' b _ => v = v' ∧ a = b := by
  refine deals_bind (deals_signal sg hw) ?_
  rintro _ _ _ _ u rest - ⟨rfl, rfl, rfl⟩ hu
  refine deals_bind (deals_signal _ hu) ?_
  rintro _ _ _ _ x rest - ⟨rfl, rfl, rfl⟩ hx
  exact deals_pure hx ⟨rfl, rfl⟩

/-- A stale link is closed once the switch succeeded. -/
theorem deals_endSwitch (result : Except RouteError Unit) (hw : Reached T w (a + (s.held + v.held) + rest)) :
    Deals T (do
      match result with
      | .ok () =>
        releaseStale
        Split.act (Service.signal (.succeeded switchWork true))
      | .error e => Split.act (Service.signal (.failed switchWork e.message))
      Split.act (Service.signal (.ended switchWork))
      return result) s v w rest fun _ _ v' b _ => v = v' ∧ a = b := by
  cases result with
  | ok _ =>
    refine deals_bind (deals_releaseStale hw) ?_
    rintro _ _ _ _ u rest - ⟨rfl, rfl⟩ hu
    exact deals_tellSwitch _ _ hu
  | error e => exact deals_tellSwitch _ _ hw

/-- Wherever a switch waits, the connection holds no link but those in its places. -/
theorem deals_switchTo (hT : T.Liberal) (hv : v.Pooled) (readOnly : Bool)
    (hw : Reached T w ({licence} + a + (s.held + v.held) + rest)) :
    Deals T (switchTo readOnly) s v w rest fun _ _ v' b _ => v'.Pooled ∧ {licence} + a = b := by
  refine deals_bind (deals_signal _ hw) ?_
  rintro _ _ _ _ u rest - ⟨rfl, rfl, rfl⟩ hu
  refine deals_bind (deals_signal _ hu) ?_
  rintro _ _ _ _ x rest - ⟨rfl, rfl, rfl⟩ hx
  cases readOnly with
  | true =>
    refine deals_bind (deals_switchToReader hT hv hx) ?_
    rintro result _ _ _ y rest - ⟨hv, rfl⟩ hy
    exact deals_imp (deals_endSwitch result hy) fun _ _ _ _ _ _ ⟨hv', ha⟩ => ⟨hv' ▸ hv, ha⟩
  | false =>
    refine deals_bind (deals_switchToWriter hT hv hx) ?_
    rintro result _ _ _ y rest - ⟨hv, rfl⟩ hy
    exact deals_imp (deals_endSwitch result hy) fun _ _ _ _ _ _ ⟨hv', ha⟩ => ⟨hv' ▸ hv, ha⟩

/-! ## Load balancing -/

/-- A link that was just given takes the place of the one kept for reading. -/
theorem deals_moveReader {l : HostLink} (hv : v.Pooled)
    (hw : Reached T w (l.1.given + a + (s.held + v.held) + rest)) :
    Deals T (moveReader l) s v w rest fun _ _ v' b _ => v'.Pooled ∧ a = b := by
  have hvalid : l.1.Valid w := valid_of_offered (.given l.1) hw
  refine deals_bind (deals_hold (p := some l) (.given l.1) hw) ?_
  rintro _ _ _ _ u rest hf ⟨rfl, rfl, rfl⟩ hu
  have hswap : Link.heldIn ((some l).map Prod.fst) + a + s.held =
      Link.heldIn (s.reader.map Prod.fst) + a + ({ s with reader := some l } : Splitter).held := by
    simp only [Splitter.held]
    abel
  refine deals_get_bind (deals_bind (deals_modify hu hswap) ?_)
  rintro _ _ _ _ x rest hf' ⟨rfl, rfl, rfl⟩ hx
  refine deals_bind (deals_makeCurrent (hvalid.later (hf.trans hf')) hv hx) ?_
  rintro _ s' v _ y rest - ⟨hv, rfl⟩ hy
  cases hold : s.reader with
  | none =>
    rw [hold] at hy
    exact deals_pure (hy.of_eq (by rw [Link.heldIn]; simp)) ⟨hv, rfl⟩
  | some old =>
    rw [hold] at hy
    have hold : old.1.Valid y := valid_in_hand (k := old.1) hy
    refine deals_get_bind ?_
    split
    · exact deals_imp (deals_giveUp hold hy) fun _ _ _ _ _ _ h => ⟨h.2.1 ▸ hv, h.2.2⟩
    · exact deals_imp (deals_letGoLink (some old.1) hy) fun _ _ _ _ _ _ h => ⟨h.2.1 ▸ hv, h.2.2⟩

theorem deals_rotateReader (hT : T.Liberal) (hv : v.Pooled)
    (hw : Reached T w ({licence} + a + (s.held + v.held) + rest)) :
    Deals T rotateReader s v w rest fun _ _ v' b _ => v'.Pooled ∧ {licence} + a = b := by
  refine deals_hosts_bind ?_
  dsimp only
  split
  · refine deals_bind (deals_pick _ hw) ?_
    rintro _ s _ _ u rest - ⟨rfl, rfl⟩ hu
    split
    · exact deals_pure hu ⟨hv, rfl⟩
    · refine deals_look_bind (deals_get_bind ?_)
      split
      · refine deals_get_bind (deals_bind (deals_connect hT hv hu) ?_)
        rintro _ _ _ _ x rest - ⟨rfl, rfl, (⟨l, rfl, rfl⟩ | ⟨⟨e, rfl⟩, rfl⟩)⟩ hx
        · refine deals_bind (deals_log _ _ hx) ?_
          rintro _ _ _ _ y rest - ⟨rfl, rfl, rfl⟩ hy
          exact deals_moveReader (l := (l, _)) hv hy
        · exact deals_imp (deals_log _ _ hx) fun _ _ _ _ _ _ ⟨_, hv', ha⟩ => ⟨hv' ▸ hv, ha⟩
      · exact deals_pure hu ⟨hv, rfl⟩
  · exact deals_pure hw ⟨hv, rfl⟩

/-! ## Giving links up -/

/-- What there is to see to for links that are in hand. -/
def heldBy (links : List HostLink) : Multiset Charge := (links.map fun l => l.1.held).sum

/-- Links that are in hand are let go, and closed if they are not current. -/
theorem deals_discard (current : Option Link) (closed : List Link) (links : List HostLink)
    (hw : Reached T w (heldBy links + a + (s.held + v.held) + rest)) :
    Deals T (discard current closed links) s v w rest fun _ s' v' b _ => s = s' ∧ v = v' ∧ a = b := by
  induction links generalizing closed w rest with
  | nil => exact deals_pure hw ⟨rfl, rfl, (zero_add a).symm⟩
  | cons l links ih =>
    obtain ⟨l, host⟩ := l
    have hw : Reached T w (l.held + (heldBy links + a) + (s.held + v.held) + rest) :=
      hw.of_eq (by simp only [heldBy, List.map_cons, List.sum_cons]; abel)
    have hvalid : l.Valid w := valid_in_hand hw
    unfold discard
    split
    · refine deals_bind (deals_letGoLink (some l) hw) ?_
      rintro _ _ _ _ u rest - ⟨rfl, rfl, rfl⟩ hu
      exact ih _ hu
    · refine deals_bind (deals_log _ _ hw) ?_
      rintro _ _ _ _ u rest hf ⟨rfl, rfl, rfl⟩ hu
      refine deals_bind (deals_work (fun _ => Link.deals_closeQuietly (hvalid.later hf)) hu) ?_
      rintro _ _ _ _ x rest - ⟨rfl, rfl, rfl, -⟩ hx
      refine deals_bind (deals_letGoLink (some l) hx) ?_
      rintro _ _ _ _ y rest - ⟨rfl, rfl, rfl⟩ hy
      exact ih _ hy

/-- Afterwards the connection keeps no link for writing or reading. -/
theorem deals_discardKept (hw : Reached T w (a + (s.held + v.held) + rest)) :
    Deals T discardKept s v w rest fun _ s' v' b _ =>
      { s with writer := none, reader := none } = s' ∧ v = v' ∧ a = b := by
  refine deals_service_bind (deals_get_bind ?_)
  have hswap : a + s.held = heldBy (s.writer.toList ++ s.reader.toList) + a +
      ({ s with writer := none, reader := none } : Splitter).held := by
    have hslot : ∀ slot : Option HostLink, heldBy slot.toList = Link.heldIn (slot.map Prod.fst) := by
      intro slot
      cases slot with
      | none => rfl
      | some l => exact add_zero _
    have hboth : heldBy (s.writer.toList ++ s.reader.toList) = heldBy s.writer.toList + heldBy s.reader.toList := by
      rw [heldBy, List.map_append, List.sum_append]
      rfl
    rw [hboth, hslot, hslot]
    show a + (_ + _ + _) = _ + _ + a + (0 + 0 + _)
    abel
  refine deals_bind (deals_modify hw hswap) ?_
  rintro _ _ _ _ u rest - ⟨rfl, rfl, rfl⟩ hu
  exact deals_discard _ _ _ hu

theorem deals_finish (hw : Reached T w (a + (s.held + v.held) + rest)) :
    Deals T finish s v w rest fun _ s' v' b _ => s'.held = 0 ∧ v = v' ∧ a = b := by
  refine deals_bind (deals_setWriter (p := none) .nothing (by rwa [zero_add])) ?_
  rintro _ _ _ _ u rest - ⟨rfl, rfl, rfl⟩ hu
  refine deals_bind (deals_setReader (p := none) .nothing (by rwa [zero_add])) ?_
  rintro _ _ _ _ x rest - ⟨rfl, rfl, rfl⟩ hx
  refine deals_imp (deals_setStale .nothing (by rwa [zero_add])) ?_
  rintro _ _ _ _ _ - ⟨rfl, rfl, rfl⟩
  exact ⟨rfl, rfl, rfl⟩

end Split

end ReplicaRouter
