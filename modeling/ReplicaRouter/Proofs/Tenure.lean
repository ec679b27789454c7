import ReplicaRouter.Proofs.Retaining
import ReplicaRouter.Proofs.Session
/-
What a logical connection holds from when it is opened until it is given up. Opening it leaves it with the links in
its places and nothing else, calls keep it so, and one that was closed holds only a link that was given back.
Main statements: `Client.deals_open`, `Client.deals_ask` and `Client.deals_finish`.
-/
namespace ReplicaRouter

open Charge World

variable {D α β : Type} [Backend D]

namespace Split

variable {T : Terms D} {s : Splitter} {v : Service} {w : World D} {a f rest : Multiset Charge}

/-- What becomes of an answer leaves the links alone that are not its own. -/
def Even (T : Terms D) (x : Split D α) : Prop :=
  ∀ {s : Splitter} {v : Service} {w : World D} {a rest : Multiset Charge}, Reached T w (a + (s.held + v.held) + rest) →
    Deals T x s v w rest fun _ _ v' b _ => v = v' ∧ a = b

theorem even_leaveOperation (op : Operation) (answer : Except RouteError Reply) :
    Even T (leaveOperation op answer : Split D _) := by
  intro s v w a rest hw
  cases answer with
  | ok reply => exact deals_pure hw ⟨rfl, rfl⟩
  | error e =>
    show Deals T (if e.isFailover then _ else _) s v w rest _
    split
    · refine deals_bind (deals_log _ _ hw) ?_
      rintro _ _ _ _ u rest - ⟨rfl, rfl, rfl⟩ hu
      refine deals_bind (deals_discardKept hu) ?_
      rintro _ _ _ _ x rest - ⟨rfl, rfl, rfl⟩ hx
      refine deals_service_bind ?_
      have hoffered : Link.Offered x v.link? 0 := by
        cases hlink : v.link? with
        | none => exact .nothing
        | some l => exact .known (Service.valid_of_current (reached_act hx) hlink)
      refine deals_bind (deals_setStale hoffered (by rwa [zero_add])) ?_
      rintro _ _ _ _ y rest - ⟨rfl, rfl, rfl⟩ hy
      exact deals_pure hy ⟨rfl, rfl⟩
    · exact deals_pure hw ⟨rfl, rfl⟩

/-- After a close the connection keeps no links. -/
theorem deals_leaveClose (answer : Except RouteError Reply) (hw : Reached T w (a + (s.held + v.held) + rest)) :
    Deals T (leaveClose answer) s v w rest fun _ s' v' b _ => s'.held = 0 ∧ v = v' ∧ a = b := by
  refine deals_bind (deals_discardKept hw) ?_
  rintro _ _ _ _ u rest - ⟨rfl, rfl, rfl⟩ hu
  refine deals_bind (deals_setStale .nothing (by rwa [zero_add])) ?_
  rintro _ _ _ _ x rest - ⟨rfl, rfl, rfl⟩ hx
  refine deals_bind (deals_restate rfl hx) ?_
  rintro _ _ _ _ y rest - ⟨rfl, rfl, rfl⟩ hy
  exact deals_pure hy ⟨rfl, rfl, rfl⟩

section Entering

variable (hT : T.Liberal) (hv : v.Pooled) (hw : Reached T w ({licence} + a + (s.held + v.held) + rest))
include hT hv hw

theorem deals_recover : Deals T recover s v w rest fun _ _ v' b _ => v'.Pooled ∧ {licence} + a = b := by
  refine deals_get_bind (deals_service_bind ?_)
  split
  · refine deals_bind (deals_log _ _ hw) ?_
    rintro _ _ _ _ u rest - ⟨rfl, rfl, rfl⟩ hu
    exact deals_switchTo hT hv _ hu
  · exact deals_pure hw ⟨hv, rfl⟩

theorem deals_balance (op : Operation) :
    Deals T (balance op) s v w rest fun _ _ v' b _ => v'.Pooled ∧ {licence} + a = b := by
  refine deals_get_bind (deals_service_bind ?_)
  split
  · exact deals_rotateReader hT hv hw
  · exact deals_pure hw ⟨hv, rfl⟩

end Entering

/-! ## The first link -/

theorem deals_identifyInitial (hT : T.Liberal) {req : ConnectRequest} {l : Link}
    (hw : Reached T w (a + v.held + rest)) :
    Act.Deals T (identifyInitial req l) v w rest fun _ v' b _ => v.Stays v' ∧ a = b := by
  refine Act.deals_bind (Service.deals_identify hT hw) ?_
  rintro (e | (_ | host)) _ _ u rest - ⟨rfl, rfl⟩ hu
  · exact Act.deals_pure hu ⟨.refl v, rfl⟩
  · exact Act.deals_pure hu ⟨.refl v, rfl⟩
  · refine Act.deals_bind (Service.deals_setInitialHost hu) ?_
    rintro _ _ _ x rest - ⟨hstays, rfl⟩ hx
    exact Act.deals_pure hx ⟨hstays, rfl⟩

/-- The link comes back as it was given, or is closed. -/
theorem deals_leaveConnect (hT : T.Liberal) {req : ConnectRequest} {answer : Except RouteError Link}
    (hanswer : Linked answer a) (hw : Reached T w (a + (s.held + v.held) + rest)) :
    Deals T (leaveConnect req answer) s v w rest fun r s' v' b _ => s = s' ∧ v.Stays v' ∧ Linked r b := by
  cases hanswer with
  | refused e => exact deals_pure hw ⟨rfl, .refl v, .refused e⟩
  | given l =>
    refine deals_service_bind (deals_look_bind ?_)
    split
    · refine deals_bind (deals_act (deals_identifyInitial hT (reached_act hw))) ?_
      rintro (e | _) _ v' _ u rest - ⟨rfl, hstays, rfl⟩ hu
      · have hvalid : l.Valid u := valid_of_offered (.given l) hu
        refine deals_bind (deals_work (fun _ => Link.deals_closeQuietly hvalid) hu) ?_
        rintro _ _ _ _ x rest - ⟨rfl, rfl, rfl, hreturned⟩ hx
        have hx := hreturned.settled (hx.of_eq (by rw [add_assoc, add_assoc]))
        exact deals_pure (hx.of_eq (by rw [← add_assoc])) ⟨rfl, hstays, .refused e⟩
      · exact deals_pure hu ⟨rfl, hstays, .given l⟩
    · exact deals_pure hw ⟨rfl, .refl v, .given l⟩

/-! ## On the way in -/

/-- An operation other than a close is answered, or passed on to come back evenly. -/
inductive Passes (T : Terms D) : OperationHandling D → Prop
  | answer (ans : Except RouteError Reply) : Passes T (.answer ans)
  | forward {op : Operation} {leave : Except RouteError Reply → Split D (Except RouteError Reply)}
      (even : ∀ ans, Even T (leave ans)) : Passes T (.forward op leave)

theorem deals_onExecute (hT : T.Liberal) (hv : v.Pooled) {op : Operation} (hop : op ≠ .close)
    (hw : Reached T w ({licence} + a + (s.held + v.held) + rest)) :
    Deals T (plugin.onExecute op) s v w rest fun handling _ v' b _ =>
      v'.Pooled ∧ {licence} + a = b ∧ Passes T handling := by
  have henter : Deals T (enterOperation op) s v w rest fun handling _ v' b _ =>
      v'.Pooled ∧ {licence} + a = b ∧ Passes T handling := by
    refine deals_bind (deals_recover hT hv hw) ?_
    rintro (e | _) _ _ _ u rest - ⟨hv, rfl⟩ hu
    · exact deals_pure hu ⟨hv, rfl, .answer _⟩
    · refine deals_bind (deals_balance hT hv hu op) ?_
      rintro _ _ _ _ x rest - ⟨hv, rfl⟩ hx
      exact deals_pure hx ⟨hv, rfl, .forward (even_leaveOperation op)⟩
  cases op with
  | close => exact absurd rfl hop
  | setReadOnly readOnly =>
    refine deals_bind (deals_switchTo hT hv readOnly hw) ?_
    rintro (e | _) _ _ _ u rest - ⟨hv, rfl⟩ hu
    · exact deals_pure hu ⟨hv, rfl, .answer _⟩
    · refine deals_bind (deals_restate rfl hu) ?_
      rintro _ _ _ _ x rest - ⟨rfl, rfl, rfl⟩ hx
      exact deals_pure hx ⟨hv, rfl, .forward (even_leaveOperation _)⟩
  | _ => exact henter

/-- A request passes read/write splitting as the only plugin of a chain. -/
theorem through_eq {Req Ans : Type} (hook : Plugin Splitter (Act D) → Req → Split D (Handling (Split D) Req Ans))
    (last : Req → Act D Ans) (s : Splitter) (req : Req) :
    Chain.through hook last [(Split.plugin, s)] req = do
      let (handling, s) ← (hook Split.plugin req).run s
      match handling with
      | .answer ans => return (ans, [(Split.plugin, s)])
      | .forward req leave =>
        let (ans, s) ← (Split.act (last req) >>= leave).run s
        return (ans, [(Split.plugin, s)]) := by
  refine bind_congr fun ⟨handling, s⟩ => ?_
  cases handling with
  | answer ans => rfl
  | forward req leave => simp [Chain.through, Split.act, StateT.run_bind]

/-- To the logical connection the links of the splitter are something besides its own. -/
theorem deals_run {x : Split D α} {Q : α → Splitter → Service → Multiset Charge → World D → Prop}
    (hx : Deals T x s v w rest Q) :
    Act.Deals T (x.run s) v w rest fun r v' b u => ∃ c, b = c + r.2.held ∧ Q r.1 r.2 v' c u := fun now =>
  (hx now).imp fun _ _ _ ⟨b, hb, hq⟩ => ⟨_, by rw [hb, add_assoc], b, rfl, hq⟩

theorem reached_of_act (hw : Reached T w (a + s.held + v.held + rest)) : Reached T w (a + (s.held + v.held) + rest) :=
  hw.of_eq (by rw [add_assoc a])

end Split

/-! ## Clients -/

namespace Connection

/-- What the plugins of a logical connection have to see to. -/
def held (c : Connection Splitter D) : Multiset Charge := (c.chain.map fun e => e.2.held).sum

omit [Backend D] in
theorem held_eq {c : Connection Splitter D} {p : Plugin Splitter (Act D)} {s : Splitter} (h : c.chain = [(p, s)]) :
    c.held = s.held := by
  rw [held, h]
  exact add_zero _

end Connection

/-- A logical connection as the application has it. -/
structure Client (D : Type) where
  service : Service
  connection : Connection Splitter D

namespace Client

/-- Everything that the logical connection has to see to. -/
def held (k : Client D) : Multiset Charge := k.connection.held + k.service.held

/-- The plugins hold nothing, and the current link was given back. -/
def Emptied (k : Client D) (w : World D) : Prop :=
  k.connection.held = 0 ∧ ∀ l, k.service.link? = some l → l.Returned w

/-- Read/write splitting is its only plugin, and once it is closed it holds nothing that is out. -/
structure Sound (k : Client D) (w : World D) : Prop where
  plain : ∃ s, k.connection.chain = [(Split.plugin, s)]
  pooled : k.service.Pooled
  emptied : k.connection.closed = true → k.Emptied w

variable {T : Terms D} {k : Client D} {w w' : World D} {n rest : Multiset Charge} {op : Operation}

theorem Emptied.later (hf : w.Follows T w') (h : k.Emptied w) : k.Emptied w' :=
  ⟨h.1, fun l hl => (h.2 l hl).later hf⟩

omit [Backend D] in
/-- Who is emptied holds nothing but a handle that was given back. -/
theorem Emptied.returned (h : k.Emptied w) {e : Charge} (he : e ∈ k.held) :
    ∃ i, e = ref i ∧ (w.handle i).returned = true := by
  rw [held, h.1, zero_add, Service.held] at he
  cases hlink : k.service.link? with
  | none =>
    rw [hlink] at he
    cases Multiset.notMem_zero _ he
  | some l =>
    rw [hlink] at he
    cases l with
    | direct c => cases Multiset.notMem_zero _ he
    | pooled i => exact ⟨i, Multiset.mem_singleton.1 he, h.2 _ hlink i rfl⟩

theorem Sound.later (hf : w.Follows T w') (h : k.Sound w) : k.Sound w' :=
  ⟨h.plain, h.pooled, fun hc => (h.emptied hc).later hf⟩

/-! ### Opening -/

/-- Whoever asks for a logical connection keeps the right to put pools in, and gets one that is open and sound, or
nothing more. -/
inductive Opened (w : World D) : Except RouteError (Connection Splitter D × Service) → Multiset Charge → Prop
  | opened {c : Connection Splitter D} {v : Service} (sound : Sound ⟨v, c⟩ w) (isOpen : c.closed = false) :
      Opened w (.ok (c, v)) ({licence} + held ⟨v, c⟩)
  | refused (e : RouteError) : Opened w (.error e) {licence}

theorem deals_firstLink (hT : T.Liberal) {s : Splitter} {v : Service} (hv : v.Pooled) {req : ConnectRequest}
    (hw : Reached T w ({licence} + (s.held + v.held) + rest)) :
    Act.Deals T (Chain.connect [(Split.plugin, s)] Connection.lastConnect req) v w rest fun r v' b _ =>
      v.Stays v' ∧ r.2 = [(Split.plugin, s)] ∧ ∃ g, b = g + s.held ∧ Linked r.1 g := by
  rw [Chain.connect, Split.through_eq]
  have hlast : Split.Deals T (Split.act (Connection.lastConnect req)) s v w rest fun r s' v' b _ =>
      s = s' ∧ v = v' ∧ Linked r b := by
    have hconnect : ∀ rest, Reached T w ({licence} + rest) →
        World.Deals T (v.providers.connect req.protocol req.host req.props) w rest fun r g _ => Linked r g :=
      fun _ hw => Providers.deals_connect hT hv hw
    refine Split.deals_imp (Split.deals_act (Act.deals_get_bind (Act.deals_world (a := 0) hconnect
      (by rw [add_zero]; exact Split.reached_act hw)))) ?_
    rintro r _ _ _ _ - ⟨rfl, rfl, _, rfl, hlinked⟩
    exact ⟨rfl, rfl, by rwa [add_zero]⟩
  have hpass : Split.Deals T (Split.act (Connection.lastConnect req) >>= Split.leaveConnect req) s v w rest
      fun r s' v' b _ => s = s' ∧ v.Stays v' ∧ Linked r b := by
    refine Split.deals_bind hlast ?_
    rintro r _ _ _ u rest - ⟨rfl, rfl, hlinked⟩ hu
    exact Split.deals_leaveConnect hT hlinked hu
  show Act.Deals T ((Split.act (Connection.lastConnect req) >>= Split.leaveConnect req).run s >>= fun r =>
    pure (r.1, [(Split.plugin, r.2)])) v w rest _
  refine Act.deals_bind (Split.deals_run hpass) ?_
  rintro ⟨r, _⟩ v' _ u rest - ⟨g, rfl, rfl, hstays, hlinked⟩ hu
  exact Act.deals_pure hu ⟨hstays, rfl, g, rfl, hlinked⟩

theorem deals_open (hT : T.Liberal) {s : Splitter} {v : Service} (hs : s.held = 0) (hheld : v.held = 0) (hv : v.Pooled)
    {host : Host} {props : Properties} (hw : Reached T w ({licence} + rest)) :
    World.Deals T (do
      let (opened, service) ← (Connection.open [(Split.plugin, s)] host props).run v
      return opened.map (·, service)) w rest fun r own u => Opened u r own := by
  have hopen : Act.Deals T (Connection.open [(Split.plugin, s)] host props) v w rest fun r v' b u =>
      Opened u (r.map (·, v')) (b + v'.held) := by
    refine Act.deals_get_bind (Act.deals_bind (deals_firstLink hT hv
      (hw.of_eq (by rw [hs, hheld, add_zero, add_zero]))) ?_)
    rintro ⟨r, _⟩ v' _ u rest - ⟨hstays, rfl, _, rfl, (l | e)⟩ hu
    · refine Act.deals_get_bind (Act.deals_bind (Act.deals_idle (idles_log _ _) hu) ?_)
      rintro _ _ _ x rest - ⟨rfl, rfl⟩ hx
      refine Act.deals_bind (Service.deals_setCurrent (.given l) (hx.of_eq (by rw [add_assoc l.given]))) ?_
      rintro _ v'' _ y rest - ⟨hproviders, rfl⟩ hy
      have hsound : Sound (⟨v'', { chain := [(Split.plugin, s)], host, props }⟩ : Client D) y :=
        ⟨⟨s, rfl⟩, by rw [Service.Pooled, hproviders]; exact hstays.pooled hv, fun h => by cases h⟩
      refine Act.deals_pure hy ?_
      have hopened := Opened.opened hsound rfl
      rwa [held, Connection.held_eq rfl, ← add_assoc] at hopened
    · refine Act.deals_pure hu ?_
      rw [hstays.held_eq, hheld, hs, add_zero, add_zero]
      exact .refused e
  refine World.deals_bind hopen ?_
  rintro ⟨r, v'⟩ _ u rest - ⟨b, rfl, hopened⟩ hu
  exact World.deals_pure hu hopened

/-! ### Calls -/

/-- An operation other than a close passes the plugin. -/
theorem deals_execute (hT : T.Liberal) (hop : op ≠ .close) {s : Splitter} {v : Service} (hv : v.Pooled)
    (hw : Reached T w ({licence} + (s.held + v.held) + rest)) :
    Act.Deals T (Chain.execute [(Split.plugin, s)] Service.execute op) v w rest fun r v' b _ =>
      v'.Pooled ∧ ∃ s', r.2 = [(Split.plugin, s')] ∧ b = {licence} + s'.held := by
  rw [Chain.execute, Split.through_eq]
  refine Act.deals_bind (Split.deals_run (Split.deals_onExecute (a := 0) hT hv hop (by rwa [add_zero]))) ?_
  rintro ⟨_, s⟩ v _ u rest - ⟨_, rfl, hv, rfl, (ans | even)⟩ hu
  · exact Act.deals_pure hu ⟨hv, s, rfl, by rw [add_zero]⟩
  · next op leave =>
    have hpass : Split.Deals T (Split.act (Service.execute op) >>= leave) s v u rest fun _ _ v' b _ =>
        v'.Pooled ∧ {licence} + 0 = b := by
      refine Split.deals_bind (Split.deals_act (Service.deals_execute hT
        (Split.reached_act (Split.reached_of_act hu)))) ?_
      rintro ans _ _ _ x rest - ⟨rfl, hstays, rfl, -⟩ hx
      exact Split.deals_imp (even ans hx) fun _ _ _ _ _ _ ⟨hv', hb⟩ => ⟨hv' ▸ hstays.pooled hv, hb⟩
    refine Act.deals_bind (Split.deals_run hpass) ?_
    rintro ⟨ans, s⟩ v _ x rest - ⟨_, rfl, hv, rfl⟩ hx
    exact Act.deals_pure hx ⟨hv, s, rfl, by rw [add_zero]⟩

/-- A close closes the current link and gives up all others. -/
theorem deals_executeClose (hT : T.Liberal) {s : Splitter} {v : Service}
    (hw : Reached T w (n + (s.held + v.held) + rest)) :
    Act.Deals T (Chain.execute [(Split.plugin, s)] Service.execute .close) v w rest fun r v' b u =>
      v.Stays v' ∧ v.ClosedBy .close u ∧ ∃ s', r.2 = [(Split.plugin, s')] ∧ s'.held = 0 ∧ b = n := by
  rw [Chain.execute, Split.through_eq]
  have hpass : Split.Deals T (Split.act (Service.execute .close) >>= Split.leaveClose) s v w rest fun _ s' v' b u =>
      v.Stays v' ∧ v.ClosedBy .close u ∧ s'.held = 0 ∧ b = n := by
    refine Split.deals_bind (Split.deals_act (Service.deals_execute hT (Split.reached_act hw))) ?_
    rintro ans _ v' _ u rest - ⟨rfl, hstays, rfl, hclosed⟩ hu
    refine Split.deals_imp (Split.deals_leaveClose ans hu) ?_
    rintro _ _ _ _ x hf ⟨hheld, rfl, rfl⟩
    exact ⟨hstays, fun hop l hl => (hclosed hop l hl).later hf, hheld, rfl⟩
  show Act.Deals T ((Split.act (Service.execute .close) >>= Split.leaveClose).run s >>= fun r =>
    pure (r.1, [(Split.plugin, r.2)])) v w rest _
  refine Act.deals_bind (Split.deals_run hpass) ?_
  rintro ⟨ans, s'⟩ v' _ u rest - ⟨_, rfl, hstays, hclosed, hheld, rfl⟩ hu
  exact Act.deals_pure hu ⟨hstays, hclosed, s', rfl, hheld, by rw [hheld, add_zero]⟩

/-- How a call leaves the logical connection: sound, emptied by a close, and with nothing else in hand but what it
was given. -/
structure LeftBy (op : Operation) (n : Multiset Charge) (k : Client D) (b : Multiset Charge) (w : World D) : Prop where
  sound : k.Sound w
  emptied : op = .close → k.Emptied w
  inHand : b = n + k.connection.held

theorem deals_dispatch (hT : T.Liberal) (hk : k.Sound w) (hn : op = .close ∨ n = {licence})
    (hw : Reached T w (n + k.held + rest)) :
    Act.Deals T ((Connection.dispatch op).run k.connection) k.service w rest fun r v' b u =>
      LeftBy op n ⟨v', r.2⟩ b u ∧ r.2.closed = k.connection.closed := by
  obtain ⟨s, hs⟩ := hk.plain
  have hheld := Connection.held_eq hs
  rw [Connection.dispatch_run]
  split
  · next hc =>
    refine Act.deals_pure (a := n + k.connection.held) (hw.of_eq (by rw [held]; abel)) ⟨⟨hk, fun _ => ?_, rfl⟩, rfl⟩
    exact hk.emptied hc
  · next hc =>
    have hw : Reached T w (n + (s.held + k.service.held) + rest) := by rwa [held, hheld] at hw
    rw [hs]
    -- a close needs no licence and leaves nothing held; any other operation may put pools in
    by_cases hop : op = .close
    · subst hop
      refine Act.deals_bind (deals_executeClose hT hw) ?_
      rintro ⟨ans, chain⟩ v' _ u rest - ⟨hstays, hclosed, s', rfl, hempty, rfl⟩ hu
      have hempty : ({ k.connection with chain := [(Split.plugin, s')] } : Connection Splitter D).held = 0 :=
        (Connection.held_eq rfl).trans hempty
      refine Act.deals_pure hu
        ⟨⟨⟨⟨s', rfl⟩, hstays.pooled hk.pooled, fun h => absurd h hc⟩, fun _ => ⟨hempty, ?_⟩, ?_⟩, rfl⟩
      · intro l hl
        exact hclosed rfl l (hstays.link ▸ hl)
      · rw [hempty, add_zero]
    · obtain rfl := hn.resolve_left hop
      refine Act.deals_bind (deals_execute hT hop hk.pooled hw) ?_
      rintro ⟨ans, chain⟩ v' _ u rest - ⟨hpooled, s', rfl, rfl⟩ hu
      refine Act.deals_pure hu ⟨⟨⟨⟨s', rfl⟩, hpooled, fun h => absurd h hc⟩, fun h => absurd h hop, ?_⟩, rfl⟩
      rw [Connection.held_eq rfl]

/-- How a call leaves the logical connection: sound, closed if it was or if the call was a close, and with nothing
else in hand but what it was given. -/
theorem deals_ask (hT : T.Liberal) (hk : k.Sound w) (hn : op = .close ∨ n = {licence})
    (hw : Reached T w (n + k.held + rest)) :
    Act.Deals T ((Connection.ask op).run k.connection) k.service w rest fun r v' b u =>
      (⟨v', r.2⟩ : Client D).Sound u ∧ r.2.closed = (k.connection.closed || op == .close) ∧ b = n + r.2.held := by
  rw [Connection.ask_run]
  split
  · next hidle =>
    refine Act.deals_pure (a := n + k.connection.held) (hw.of_eq (by rw [held]; abel)) ⟨hk, ?_, rfl⟩
    rw [hidle.2, Bool.true_or]
  · refine Act.deals_bind (deals_dispatch hT hk hn hw) ?_
    rintro ⟨ans, c⟩ v' _ u rest - ⟨⟨hsound, hemptied, rfl⟩, hclosed⟩ hu
    have hchain := Connection.chain_remember op ans c
    have hsame : (c.remember op ans).held = c.held := by rw [Connection.held, hchain]; rfl
    have hnow : (c.remember op ans).closed = (k.connection.closed || op == .close) := by
      rw [Connection.closed_remember, hclosed]
    refine Act.deals_pure hu ⟨⟨?_, hsound.pooled, fun h => ?_⟩, hnow, by rw [hsame]⟩
    · obtain ⟨s, hs⟩ := hsound.plain
      exact ⟨s, hchain.trans hs⟩
    · -- it was closed before, or is closed by this call
      have hempty : Emptied ⟨v', c⟩ u := by
        rcases Bool.or_eq_true_iff.1 (hnow.symm.trans h) with hc | hop
        · exact hsound.emptied (hclosed.trans hc)
        · exact hemptied (eq_of_beq hop)
      exact ⟨hsame.trans hempty.1, hempty.2⟩

/-- A logical connection that is given up has nothing to see to any more. -/
theorem deals_finish (hk : k.Sound w) (hw : Reached T w (n + k.held + rest)) :
    Act.Deals T (k.connection.finish fun s => discard (Split.finish.run s)) k.service w rest fun _ v' b _ =>
      b = n ∧ v'.held = 0 := by
  obtain ⟨s, hs⟩ := hk.plain
  have hw : Reached T w (n + (s.held + k.service.held) + rest) := by rwa [held, Connection.held_eq hs] at hw
  show Act.Deals T (k.connection.chain.forM (fun p => discard (Split.finish.run p.2)) >>= fun _ => Service.finish)
    k.service w rest _
  rw [hs]
  have hplugins : Act.Deals T ([(Split.plugin (D := D), s)].forM fun p => discard (Split.finish.run p.2)) k.service w
      rest fun _ _ b _ => b = n := by
    show Act.Deals T (((Split.finish (D := D)).run s >>= fun _ => pure ()) >>= fun _ => pure ()) k.service w rest _
    rw [bind_assoc]
    refine Act.deals_bind (Split.deals_run (Split.deals_finish hw)) ?_
    rintro ⟨_, s'⟩ v' _ u rest - ⟨_, rfl, hempty, rfl, rfl⟩ hu
    exact Act.deals_pure hu (by rw [hempty, add_zero])
  refine Act.deals_bind hplugins ?_
  rintro _ _ _ u rest - rfl hu
  exact fun now => (Service.deals_finish hu now).imp fun _ _ _ ⟨b, hb, ha, hheld⟩ => ⟨b, hb, ha.symm, hheld⟩

end Client

end ReplicaRouter
