import ReplicaRouter.Proofs.Provision
/-
What the way to a new link does to links that are there already, and what it leaves behind where it fails.
Others may use links of their own meanwhile, which are called theirs: borrowed links that they give back,
and connections that they put into pools.
Main statement: an attempt leaves no connection open that it opened but the one that its link leads to,
unless others gave it back in its place, and every link alone that is not theirs (`Providers.ends_connect`).
-/
namespace ReplicaRouter

variable {D α : Type}

/-! ## Entries -/

/-- The connections that the entries, the latest first, tell were opened and not closed afterwards. -/
def Entry.leftOpen : List Entry → List ConnId
  | [] => []
  | e :: es => e.opened?.toList ++ (leftOpen es).filter fun c => e.closedConn? ≠ some c

namespace Entry

variable {c : ConnId} {e : Entry} {es fs : List Entry}

theorem mem_leftOpen_cons :
    c ∈ leftOpen (e :: es) ↔ e.opened? = some c ∨ c ∈ leftOpen es ∧ e.closedConn? ≠ some c := by
  simp [leftOpen]

/-- What is left open was left open by the entries of one part. -/
theorem mem_leftOpen_append (h : c ∈ leftOpen (es ++ fs)) : c ∈ leftOpen es ∨ c ∈ leftOpen fs := by
  induction es with
  | nil => exact .inr h
  | cons e es ih =>
    rcases mem_leftOpen_cons.1 h with ho | ⟨hm, hn⟩
    · exact .inl (mem_leftOpen_cons.2 (.inl ho))
    · exact (ih hm).imp_left fun hm => mem_leftOpen_cons.2 (.inr ⟨hm, hn⟩)

end Entry

namespace World

/-! ## Links of one's own -/

/-- Whether a link is the logical connection's own: it was provided and not closed, and no pool keeps its
connection. -/
structure Owns (w : World D) (l : Link) : Prop where
  known : w.Knows l
  unshut : ¬ w.Shut l
  apart : ∀ c, l = .direct c → ∀ id, c ∉ (w.pool id).idle

/-- Others deal with nothing but their own links: they give back no other one, and put no other connection
into a pool. -/
structure Leaves (theirs : Link → Prop) (w v : World D) : Prop where
  unreturned : ∀ h < w.handles.length, ¬ theirs (.pooled h) → (w.handle h).returned = false →
    (v.handle h).returned = false
  unpooled : ∀ c, ¬ theirs (.direct c) → (∀ id, c ∉ (w.pool id).idle) → ∀ id, c ∉ (v.pool id).idle

/-- What others may do who deal with their own links. -/
structure Apart (theirs : Link → Prop) (w v : World D) : Prop extends Aside w v, Leaves theirs w v

variable {theirs : Link → Prop} {u v w w' : World D} {l : Link} {held : Option ConnId}

theorem Apart.refl (w : World D) : w.Apart theirs w := ⟨.refl w, fun _ _ _ h => h, fun _ _ h => h⟩

theorem Apart.trans (h1 : u.Apart theirs v) (h2 : v.Apart theirs w) : u.Apart theirs w :=
  ⟨h1.toAside.trans h2.toAside,
    fun h hh hn hr => h2.unreturned h (Nat.lt_of_lt_of_le hh h1.length_le) hn (h1.unreturned h hh hn hr),
    fun c hn hi => h2.unpooled c hn (h1.unpooled c hn hi)⟩

theorem Apart.of_eq (hh : w'.handles = w.handles) (hj : w'.journal = w.journal) (hp : w'.pools = w.pools) :
    w.Apart theirs w' := by
  refine ⟨.of_eq hh hj, fun h _ _ hr => ?_, fun c _ hi id => ?_⟩
  · unfold handle at hr ⊢
    rw [hh]
    exact hr
  · have hid := hi id
    unfold pool at hid ⊢
    rw [hp]
    exact hid

theorem Apart.owns (h : w.Apart theirs v) (hl : ¬ theirs l) (ho : w.Owns l) : v.Owns l := by
  refine ⟨ho.known.mono h.upkeep.grows, fun hs => ho.unshut ?_, ?_⟩
  · cases l with
    | direct c => exact hs.imp fun r hr => h.journal ▸ hr
    | pooled i =>
      refine absurd hs (Bool.eq_false_iff.1 ?_)
      exact h.unreturned i ho.known hl (Bool.eq_false_iff.2 ho.unshut)
  · rintro c rfl
    exact h.unpooled c hl (ho.apart c rfl)

/-! ## Minding links -/

/-- The handle on the connection was lent between two worlds and is one of theirs. -/
def Passed (theirs : Link → Prop) (w w' : World D) (c : ConnId) : Prop :=
  ∃ h, theirs (.pooled h) ∧ w.handles.length ≤ h ∧ h < w'.handles.length ∧ (w'.handle h).conn = c

theorem Passed.mono (hu : u.Grows w) (hv : w'.Grows v) {c : ConnId} (h : w.Passed theirs w' c) :
    u.Passed theirs v c := by
  obtain ⟨i, ht, hle, hlt, hc⟩ := h
  exact ⟨i, ht, Nat.le_trans hu.length_le hle, Nat.lt_of_lt_of_le hlt hv.length_le, (hv.conn i hlt).trans hc⟩

/-- Between two worlds no connection was left open but one that is held, if any, or that was passed on; and
links that are not theirs were left alone. That the driver opens no connection twice is taken where a link
is a connection of its own. -/
structure Minds (theirs : Link → Prop) (held : Option ConnId) (w w' : World D) : Prop where
  grows : w.Grows w'
  journal : ∃ es, w'.journal = es ++ w.journal ∧ ∀ c ∈ Entry.leftOpen es, held = some c ∨ w.Passed theirs w' c
  owns : ∀ l, ¬ theirs l → w.Owns l → (∀ c, l = .direct c → w'.opened.Nodup) →
    w'.Owns l ∧ ∀ c, held = some c → l ≠ .direct c

theorem Minds.trans {held₁ held₂ : Option ConnId} (h1 : u.Minds theirs held₁ v) (h2 : v.Minds theirs held₂ w)
    (hheld : ∀ c, held = some c ↔ held₁ = some c ∨ held₂ = some c) : u.Minds theirs held w := by
  refine ⟨h1.grows.trans h2.grows, ?_, fun l hl ho hn => ?_⟩
  · obtain ⟨es, hes, he⟩ := h1.journal
    obtain ⟨fs, hfs, hf⟩ := h2.journal
    refine ⟨fs ++ es, by rw [hfs, hes, List.append_assoc], fun c hc => ?_⟩
    rcases Entry.mem_leftOpen_append hc with hc | hc
    · rcases hf c hc with hh | hp
      · exact .inl ((hheld c).2 (.inr hh))
      · exact .inr (hp.mono h1.grows (.refl _))
    · rcases he c hc with hh | hp
      · exact .inl ((hheld c).2 (.inl hh))
      · exact .inr (hp.mono (.refl _) h2.grows)
  · obtain ⟨ho, h1l⟩ := h1.owns l hl ho fun c hc => h2.grows.nodup (hn c hc)
    obtain ⟨ho, h2l⟩ := h2.owns l hl ho hn
    exact ⟨ho, fun c hc => ((hheld c).1 hc).elim (h1l c) (h2l c)⟩

/-- Nothing is held before. -/
theorem Minds.after (h1 : u.Minds theirs none v) (h2 : v.Minds theirs held w) : u.Minds theirs held w :=
  h1.trans h2 (by simp)

/-- What is held is held all along. -/
theorem Minds.along (h1 : u.Minds theirs held v) (h2 : v.Minds theirs none w) : u.Minds theirs held w :=
  h1.trans h2 (by simp)

/-- Where nothing is written down, handles stay and pools get no connections. -/
theorem Minds.of_stays (hs : w.HandlesStay w') (hj : w'.journal = w.journal)
    (hr : ∀ h, ¬ theirs (.pooled h) → h < w.handles.length → (w.handle h).returned = false →
      (w'.handle h).returned = false)
    (hi : ∀ id, (w'.pool id).idle ⊆ (w.pool id).idle) : w.Minds theirs none w' := by
  have hg : w.Grows w' := ⟨hs, [], hj⟩
  refine ⟨hg, ⟨[], hj, fun c hc => nomatch hc⟩, fun l hl ho _ => ⟨⟨ho.known.mono hg, fun hsh => ?_, ?_⟩, nofun⟩⟩
  · cases l with
    | direct c => exact ho.unshut (hsh.imp fun r hr => hj ▸ hr)
    | pooled i =>
      have hf := hr i hl ho.known (Bool.eq_false_iff.2 ho.unshut)
      rw [show (w'.handle i).returned = true from hsh] at hf
      cases hf
  · rintro c rfl id hc
    exact ho.apart c rfl id (hi id hc)

theorem Apart.minds (h : w.Apart theirs v) : w.Minds theirs none v :=
  ⟨h.upkeep.grows, ⟨[], h.journal, fun _ hc => nomatch hc⟩, fun _ hl ho _ => ⟨h.owns hl ho, nofun⟩⟩

theorem Minds.refl (w : World D) : w.Minds theirs none w := (Apart.refl w).minds

/-- A call that opens a connection leaves it to be held. -/
theorem Minds.note {e : Entry} (he : e.closedConn? = none) (w : World D) :
    w.Minds theirs e.opened? (Journaled.note e w) := by
  refine ⟨.note e w, ⟨[e], rfl, fun c hc => ?_⟩, fun l hl ho hn => ⟨⟨ho.known.mono (.note e w), ?_, ho.apart⟩, ?_⟩⟩
  · exact .inl ((Entry.mem_leftOpen_cons.1 hc).resolve_right fun hm => nomatch hm.1)
  · rintro hs
    refine ho.unshut ?_
    cases l with
    | pooled i => exact hs
    | direct c =>
      obtain ⟨r, hr⟩ := hs
      rcases List.mem_cons.1 hr with rfl | hr
      · cases he
      · exact ⟨r, hr⟩
  · rintro c hc rfl
    -- a connection that is known cannot be opened again
    have hnodup : (Journaled.note e w).opened.Nodup := hn c rfl
    have hopened : (Journaled.note e w : World D).opened = c :: w.opened := by
      simp only [opened, Journaled.note, List.filterMap_cons, hc]
    rw [hopened] at hnodup
    exact (List.nodup_cons.1 hnodup).1 ho.known

/-- Once it is closed a connection is not held any more. -/
theorem Minds.close {c : ConnId} {r : Except RouteError Unit} (h : u.Minds theirs held v)
    (hheld : ∀ d, held = some d → d = c)
    (hc : ∀ l, ¬ theirs l → u.Owns l → (∀ c, l = .direct c → v.opened.Nodup) → l ≠ .direct c) :
    u.Minds theirs none (Journaled.note (.call (.close c r)) v) := by
  have hg : v.Grows (Journaled.note (.call (.close c r)) v) := .note _ v
  refine ⟨h.grows.trans hg, ?_, fun l hl ho hn => ?_⟩
  · obtain ⟨es, hes, he⟩ := h.journal
    refine ⟨.call (.close c r) :: es, congrArg _ hes, fun d hd => .inr ?_⟩
    rcases Entry.mem_leftOpen_cons.1 hd with hd | ⟨hd, hne⟩
    · cases hd
    · rcases he d hd with hh | hp
      · exact absurd (congrArg some (hheld d hh).symm) hne
      · exact hp.mono (.refl _) hg
  · obtain ⟨hov, -⟩ := h.owns l hl ho hn
    refine ⟨⟨hov.known.mono hg, fun hs => ?_, hov.apart⟩, nofun⟩
    cases l with
    | pooled i => exact hov.unshut hs
    | direct d =>
      obtain ⟨x, hx⟩ := hs
      rcases List.mem_cons.1 hx with he | hx
      · cases he
        exact hc (.direct c) hl ho hn rfl
      · exact hov.unshut ⟨x, hx⟩

end World

/-- Others deal with their own links. -/
class Minding (others : World D → World D → Prop) (theirs : Link → Prop) : Prop where
  apart : ∀ {w v}, others w v → w.Apart theirs v

instance {theirs : Link → Prop} : Minding (World.Apart (D := D) theirs) theirs := ⟨id⟩

instance {theirs : Link → Prop} : Bystanders (World.Apart (D := D) theirs) := ⟨World.Apart.toAside⟩

namespace World

variable {others : World D → World D → Prop} {theirs : Link → Prop} {now later : Instant} {u v w w' : World D}
  {held : Option ConnId} {c : ConnId} {h : HandleId} {id : PoolId}

/-! ## Changes of the world -/

theorem minds_note {e : Entry} (ho : e.opened? = none) (hc : e.closedConn? = none) (w : World D) :
    w.Minds theirs none (Journaled.note e w) := by
  have h : w.Minds theirs e.opened? (Journaled.note e w) := .note hc w
  rw [ho] at h
  exact h

theorem minds_log (level : LogLevel) (text : String) :
    Routine.Keeps others (Minds (D := D) theirs none) (Routine.log level text) :=
  Routine.keeps_modify (minds_note rfl rfl)

theorem idle_modifyPool {f : Pool → Pool} (hf : (f (w.pool id)).idle ⊆ (w.pool id).idle) (j : PoolId) :
    ((w.modifyPool id f).pool j).idle ⊆ (w.pool j).idle := by
  by_cases hid : id < w.pools.length
  · rw [pool_modifyPool hid]
    split
    · next he => rw [he]; exact hf
    · exact List.Subset.refl _
  · have hsame : w.pools.modify id f = w.pools := List.modify_eq_self (Nat.le_of_not_lt hid)
    rw [modifyPool, pool, hsame]
    exact List.Subset.refl _

theorem Minds.modifyPool {f : Pool → Pool} (hf : (f (w.pool id)).idle ⊆ (w.pool id).idle) :
    w.Minds theirs none (w.modifyPool id f) := by
  have hs : w.Aside (w.modifyPool id f) := .of_eq rfl rfl
  exact .of_stays hs.toHandlesStay rfl (fun _ _ _ hr => hr) (idle_modifyPool hf)

/-- A pool that is new and has no connections changes nothing. -/
theorem Minds.append_pool {p : Pool} (hp : p.idle = []) (w : World D) :
    w.Minds theirs none { w with pools := w.pools ++ [p] } := by
  have hs : w.Aside { w with pools := w.pools ++ [p] } := .of_eq rfl rfl
  refine .of_stays hs.toHandlesStay rfl (fun _ _ _ hr => hr) fun j => ?_
  have hcases : (w.pools ++ [p]).getD j default = w.pools.getD j default ∨ (w.pools ++ [p]).getD j default = p ∨
      (w.pools ++ [p]).getD j default = default := by
    grind
  show ((w.pools ++ [p]).getD j default).idle ⊆ (w.pools.getD j default).idle
  rcases hcases with h | h | h
  · rw [h]; exact List.Subset.refl _
  · rw [h, hp]; exact List.nil_subset _
  · rw [h]; exact List.nil_subset _

theorem minds_modifyPool {f : Pool → Pool} (hf : ∀ p, (f p).idle ⊆ p.idle) :
    Routine.Keeps others (Minds (D := D) theirs none) (modify (modifyPool id f)) :=
  Routine.keeps_modify fun _ => .modifyPool (hf _)

theorem minds_modifyPermits (f : Permits → Permits) :
    Routine.Keeps others (Minds (D := D) theirs none) (modify (modifyPool id (·.modifyPermits f))) :=
  minds_modifyPool fun _ => List.Subset.refl _

theorem minds_modifyHandle {f : Handle → Handle} (hc : ∀ e, (f e).conn = e.conn)
    (hr : ∀ e, (f e).returned = e.returned) :
    Routine.Keeps others (Minds (D := D) theirs none) (modify (modifyHandle h f)) := by
  refine Routine.keeps_modify fun w => ?_
  have hs := Aside.modifyHandle (h := h) hc (fun e he => (hr e).trans he) w
  refine .of_stays hs.toHandlesStay rfl (fun i _ _ hi => ?_) fun _ => List.Subset.refl _
  rcases handle_modifyHandle_or h f w i with he | ⟨rfl, he⟩
  · rw [he]; exact hi
  · rw [he, hr]; exact hi

/-- Whatever becomes of a handle that is not as old, older links are left alone. -/
theorem Minds.modifyHandle {f : Handle → Handle} (hu : u.Minds theirs held v) (hh : u.handles.length ≤ h)
    (hc : ∀ e, (f e).conn = e.conn) (hr : ∀ e, e.returned = true → (f e).returned = true) :
    u.Minds theirs held (v.modifyHandle h f) := by
  have hs := (Aside.modifyHandle (h := h) hc hr v).upkeep.grows
  refine ⟨hu.grows.trans hs, ?_, fun l hl ho hn => ?_⟩
  · obtain ⟨es, hj, he⟩ := hu.journal
    exact ⟨es, hj, fun c hc => (he c hc).imp_right (.mono (.refl _) hs)⟩
  · obtain ⟨hv, hne⟩ := hu.owns l hl ho hn
    refine ⟨⟨hv.known.mono hs, fun hsh => hv.unshut ?_, hv.apart⟩, hne⟩
    cases l with
    | direct c => exact hsh
    | pooled i =>
      have hi : i ≠ h := Nat.ne_of_lt (Nat.lt_of_lt_of_le ho.known hh)
      have hsh : ((v.modifyHandle h f).handle i).returned = true := hsh
      rwa [(handle_modifyHandle_or h f v i).resolve_right fun he => hi he.1] at hsh

/-- A connection that no own link leads to can be held. -/
theorem Minds.holds (hw : u.Minds theirs none w) (hc : ∀ l, u.Owns l → l ≠ .direct c) :
    u.Minds theirs (some c) w := by
  refine ⟨hw.grows, ?_, fun l hl ho hn => ⟨(hw.owns l hl ho hn).1, ?_⟩⟩
  · obtain ⟨es, hj, he⟩ := hw.journal
    exact ⟨es, hj, fun d hd => .inr ((he d hd).resolve_left nofun)⟩
  · rintro _ ⟨⟩
    exact hc l ho

/-- A connection that is passed on is not held any more. -/
theorem Minds.pass (hw : u.Minds theirs (some c) w) (hc : u.Passed theirs w c) : u.Minds theirs none w := by
  refine ⟨hw.grows, ?_, fun l hl ho hn => ⟨(hw.owns l hl ho hn).1, nofun⟩⟩
  obtain ⟨es, hj, he⟩ := hw.journal
  refine ⟨es, hj, fun d hd => ?_⟩
  rcases he d hd with ⟨⟨⟩⟩ | hp
  · exact .inr hc
  · exact .inr hp

variable [Minding others theirs]

instance : Frame others (Apart theirs) := ⟨.refl, .trans, Minding.apart⟩

instance : Frame others (Minds theirs none) := ⟨.refl, .after, fun h => (Minding.apart h).minds⟩

/-! ## Calls to the driver -/

/-- A call that neither opens nor closes a connection minds all links. -/
theorem minds_call (x : Routine D α) {entry : α → Entry} (ho : ∀ a, (entry a).opened? = none)
    (hc : ∀ a, (entry a).closedConn? = none) :
    Routine.Keeps others (Minds theirs none)
      (do let a ← x.focus backendPart; Routine.note (entry a); return a) :=
  Routine.keeps_bind (Routine.keeps_focus x fun _ _ => Apart.minds (.of_eq rfl rfl rfl)) fun a =>
    Routine.keeps_bind (Routine.keeps_modify (minds_note (ho a) (hc a))) fun _ => Routine.keeps_pure _

variable [Backend D]

theorem ends_dial {protocol : String} {host : Host} {props : Properties} {r : Except RouteError ConnId}
    (hx : Routine.Ends others (dial protocol host props) now w r later w') : w.Minds theirs r.toOption w' := by
  obtain ⟨b, t, v, h1, hx⟩ := Routine.ends_bind.1 hx
  obtain ⟨_, t', v', h2, hx⟩ := Routine.ends_bind.1 hx
  obtain ⟨rfl, -, rfl⟩ := Routine.ends_pure.1 hx
  obtain ⟨-, -, rfl⟩ := Routine.ends_pure.1 h2
  -- others do their part while the call lasts, and then it is written down
  have hv : w.Apart theirs v := (Routine.keeps_focus (R := Apart theirs) _ fun w v => .of_eq rfl rfl rfl).ends h1
  exact hv.minds.after (Minds.note (e := .call (.connect protocol host props r.toOption)) rfl v)

theorem minds_send (c : ConnId) (op : Operation) : Routine.Keeps others (Minds (D := D) theirs none) (send c op) :=
  Routine.keeps_bind Routine.keeps_get fun _ => minds_call _ (fun _ => rfl) fun _ => rfl

theorem minds_check (c : ConnId) (limit : Duration) :
    Routine.Keeps others (Minds (D := D) theirs none) (check c limit) :=
  minds_call _ (fun _ => rfl) fun _ => rfl

/-- Closing a connection that no own link leads to. -/
theorem meets_hangUp (hu : u.Minds theirs held v) (hheld : ∀ d, held = some d → d = c)
    (hc : ∀ l, ¬ theirs l → u.Owns l → (∀ c, l = .direct c → v.opened.Nodup) → l ≠ .direct c) :
    Routine.Meets others (hangUp c) v (u.Minds theirs held) fun _ => u.Minds theirs none := by
  have hfocus : Routine.Keeps others (Apart theirs) ((Backend.close c).focus (backendPart (D := D))) :=
    Routine.keeps_focus _ fun w v => .of_eq rfl rfl rfl
  refine Routine.meets_bind ((hfocus v).mono (fun v' hv => hu.along hv.minds) fun r v' hv _ => ?_)
  refine (hu.along hv.minds).close hheld fun l hl ho hn => hc l hl ho fun c hlc => ?_
  rw [opened, ← hv.journal]
  exact hn c hlc

/-- A connection that is held is not held any more once it is closed. -/
theorem ends_hangUpQuietly {a : Unit} (hx : Routine.Ends others (hangUpQuietly c) now v a later w')
    (hu : u.Minds theirs (some c) v) : u.Minds theirs none w' := by
  obtain ⟨r, t, v', h1, hx⟩ := Routine.ends_bind.1 hx
  have hv' : u.Minds theirs none v' :=
    (meets_hangUp hu (by simp) fun l hl ho hn => (hu.owns l hl ho hn).2 c rfl).ends h1
  cases r with
  | ok _ =>
    obtain ⟨-, -, rfl⟩ := Routine.ends_pure.1 hx
    exact hv'
  | error e => exact hv'.after ((minds_log _ _).ends hx)

/-! ## Borrowing -/

omit [Backend D] in
theorem minds_acquire : Routine.Keeps others (Minds (D := D) theirs none) (acquire id) := by
  refine Routine.keeps_bind Routine.keeps_get fun w => ?_
  dsimp only
  split
  · exact Routine.keeps_bind (minds_modifyPool fun _ => List.Subset.refl _) fun _ => Routine.keeps_pure _
  · refine Routine.keeps_bind (minds_modifyPermits _) fun _ => ?_
    refine Routine.keeps_bind Routine.keeps_now fun now => ?_
    refine Routine.keeps_bind (Routine.keeps_wait _ _) fun ready => ?_
    refine Routine.keeps_bind Routine.keeps_get fun w => ?_
    split <;> exact Routine.keeps_bind (minds_modifyPermits _) fun _ => Routine.keeps_pure _

omit [Minding others theirs] in
/-- No own link leads to an idle connection. -/
theorem ends_takeIdle {r : Option ConnId} (hx : Routine.Ends others (takeIdle id) now w r later w') :
    w.Minds theirs r w' := by
  have hx := Routine.ends_get_bind.1 hx
  have hsuffix : w.firstOpen (w.pool id).idle <:+ (w.pool id).idle := List.dropWhile_suffix _
  split at hx
  · have hx := Routine.ends_modify_bind.1 hx
    obtain ⟨rfl, -, rfl⟩ := Routine.ends_pure.1 hx
    exact .modifyPool (List.nil_subset _)
  · next c idle hidle =>
    have hx := Routine.ends_modify_bind.1 hx
    obtain ⟨rfl, -, rfl⟩ := Routine.ends_pure.1 hx
    rw [hidle] at hsuffix
    have hm : w.Minds theirs none (w.modifyPool id fun p => { p with idle }) :=
      .modifyPool fun d hd => hsuffix.subset (List.mem_cons_of_mem c hd)
    refine hm.holds ?_
    rintro l ho rfl
    exact ho.apart c rfl id (hsuffix.subset List.mem_cons_self)

/-- A connection that was opened and cannot be set up is closed again. -/
theorem ends_openFor {r : Except RouteError ConnId} (hx : Routine.Ends others (openFor id) now w r later w') :
    w.Minds theirs r.toOption w' := by
  obtain ⟨r₁, t₁, w₁, h1, hx⟩ := Routine.ends_bind.1 (Routine.ends_get_bind.1 hx)
  have hw₁ : w.Minds theirs r₁.toOption w₁ := ends_dial h1
  cases r₁ with
  | error e =>
    obtain ⟨rfl, -, rfl⟩ := Routine.ends_pure.1 hx
    exact hw₁
  | ok c =>
    dsimp only at hx
    split at hx
    · obtain ⟨r₂, t₂, w₂, h2, hx⟩ := Routine.ends_bind.1 hx
      have hw₂ := hw₁.along ((minds_send _ _).ends h2)
      cases r₂ with
      | error e =>
        obtain ⟨_, t₃, w₃, h3, hx⟩ := Routine.ends_bind.1 hx
        obtain ⟨rfl, -, rfl⟩ := Routine.ends_pure.1 hx
        exact ends_hangUpQuietly h3 hw₂
      | ok _ =>
        obtain ⟨_, t₃, w₃, h3, hx⟩ := Routine.ends_bind.1 hx
        obtain ⟨rfl, -, rfl⟩ := Routine.ends_pure.1 hx
        exact hw₂.along ((minds_log _ _).ends h3)
    · obtain ⟨_, t₂, w₂, h2, hx⟩ := Routine.ends_bind.1 hx
      obtain ⟨rfl, -, rfl⟩ := Routine.ends_pure.1 hx
      exact hw₁.along ((minds_log _ _).ends h2)

theorem ends_takeOrOpen {r : Except RouteError ConnId} (hx : Routine.Ends others (takeOrOpen id) now w r later w') :
    w.Minds theirs r.toOption w' := by
  obtain ⟨c, t₁, w₁, h1, hx⟩ := Routine.ends_bind.1 hx
  have hw₁ : w.Minds theirs c w₁ := ends_takeIdle h1
  cases c with
  | some c =>
    obtain ⟨rfl, -, rfl⟩ := Routine.ends_pure.1 hx
    exact hw₁
  | none => exact hw₁.after (ends_openFor hx)

end World

/-- A handle was lent between two worlds, and its connection is held. It may have been given back, if it is
one of theirs. -/
structure World.Lends (theirs : Link → Prop) (w : World D) (h : HandleId) (w' : World D) : Prop where
  minds : w.Minds theirs (some (w'.handle h).conn) w'
  new : w.handles.length ≤ h
  known : h < w'.handles.length
  unreturned : ¬ theirs (.pooled h) → (w'.handle h).returned = false

/-- Between two worlds a handle was lent, or nothing is left. -/
def World.Borrows (theirs : Link → Prop) (w : World D) : Except RouteError HandleId → World D → Prop
  | .ok h, w' => w.Lends theirs h w'
  | .error _, w' => w.Minds theirs none w'

namespace World

variable {others : World D → World D → Prop} {theirs : Link → Prop} {now later : Instant} {u v w w' : World D}
  {c : ConnId} {h : HandleId} {id : PoolId}

theorem Lends.along (hw : w.Lends theirs h v) (hv : v.Minds theirs none w') : w.Lends theirs h w' := by
  have hc : (w'.handle h).conn = (v.handle h).conn := hv.grows.conn h hw.known
  refine ⟨by rw [hc]; exact hw.minds.along hv, hw.new, Nat.lt_of_lt_of_le hw.known hv.grows.length_le, fun hn => ?_⟩
  have hopen : ¬ v.Shut (.pooled h) := fun hs => absurd hs (Bool.eq_false_iff.1 (hw.unreturned hn))
  exact Bool.eq_false_iff.2 (hv.owns (.pooled h) hn ⟨hw.known, hopen, nofun⟩ nofun).1.unshut

theorem Lends.since (hu : u.Minds theirs none w) (hw : w.Lends theirs h w') : u.Lends theirs h w' :=
  ⟨hu.after hw.minds, Nat.le_trans hu.grows.length_le hw.new, hw.known, hw.unreturned⟩

theorem Borrows.since {r : Except RouteError HandleId} (hu : u.Minds theirs none w) (hw : w.Borrows theirs r w') :
    u.Borrows theirs r w' := by
  cases r with
  | ok h => exact Lends.since hu hw
  | error e => exact hu.after hw

/-- A connection that is held can be lent. -/
theorem Minds.lends {e : Handle} (hw : u.Minds theirs (some e.conn) w) (he : e.returned = false) :
    u.Lends theirs w.handles.length { w with handles := w.handles ++ [e] } := by
  have hs : w.Aside { w with handles := w.handles ++ [e] } := .append_handle e w
  have hm : w.Minds theirs none { w with handles := w.handles ++ [e] } := by
    refine .of_stays hs.toHandlesStay rfl (fun i _ hi hr => ?_) fun _ => List.Subset.refl _
    rw [handle_append_of_lt e hi]
    exact hr
  refine ⟨?_, hw.grows.length_le, by simp, fun _ => ?_⟩
  · rw [handle_append_length]
    exact hw.along hm
  · rw [handle_append_length]
    exact he

/-- What is lent is held from then on. -/
theorem ends_lend (hu : u.Minds theirs (some c) v) (hx : Routine.Ends others (lend id c) now v h later w') :
    u.Lends theirs h w' := by
  have hx := Routine.ends_modify_bind.1 hx
  obtain ⟨rfl, -, rfl⟩ := Routine.ends_pure.1 hx
  have hv : v.Minds theirs none (v.modifyPool id Pool.lend) := .modifyPool (List.Subset.refl _)
  exact Minds.lends (e := { pool := id, conn := c }) (hu.along hv) rfl

theorem ends_markReturned {first : Bool} (hx : Routine.Ends others (markReturned h) now v first later w') :
    first = !(v.handle h).returned ∧ later = now ∧ w' = v.modifyHandle h fun e => { e with returned := true } := by
  have hx := Routine.ends_get_bind.1 hx
  have hx := Routine.ends_modify_bind.1 hx
  obtain ⟨rfl, rfl, rfl⟩ := Routine.ends_pure.1 hx
  exact ⟨rfl, rfl, rfl⟩

variable [Minding others theirs] [Backend D]

theorem ends_borrow {r : Except RouteError HandleId} (hx : Routine.Ends others (borrow id) now w r later w') :
    w.Borrows theirs r w' := by
  have hx := Routine.ends_get_bind.1 hx
  dsimp only at hx
  split at hx
  · obtain ⟨rfl, -, rfl⟩ := Routine.ends_pure.1 hx
    exact Minds.refl _
  · obtain ⟨r₁, t₁, w₁, h1, hx⟩ := Routine.ends_bind.1 hx
    have hw₁ : w.Minds theirs none w₁ := minds_acquire.ends h1
    cases r₁ with
    | error e =>
      obtain ⟨rfl, -, rfl⟩ := Routine.ends_pure.1 hx
      exact hw₁
    | ok _ =>
      obtain ⟨r₂, t₂, w₂, h2, hx⟩ := Routine.ends_bind.1 hx
      have hw₂ : w₁.Minds theirs r₂.toOption w₂ := ends_takeOrOpen h2
      cases r₂ with
      | error e =>
        obtain ⟨_, t₃, w₃, h3, hx⟩ := Routine.ends_bind.1 hx
        obtain ⟨rfl, -, rfl⟩ := Routine.ends_pure.1 hx
        exact (hw₁.after hw₂).after ((minds_modifyPermits _).ends h3)
      | ok c =>
        obtain ⟨i, t₃, w₃, h3, hx⟩ := Routine.ends_bind.1 hx
        obtain ⟨rfl, -, rfl⟩ := Routine.ends_pure.1 hx
        exact ends_lend (hw₁.after hw₂) h3

theorem minds_isValid (limit : Duration) :
    Routine.Keeps others (Minds (D := D) theirs none) ((Link.pooled h).isValid limit) := by
  refine Routine.keeps_bind Routine.keeps_get fun w => ?_
  dsimp only
  split
  · exact Routine.keeps_pure _
  · exact Routine.keeps_bind (Routine.keeps_within (minds_check _ _) _) fun _ => Routine.keeps_pure _

omit [Backend D] in
theorem minds_dropPermit : Routine.Keeps others (Minds (D := D) theirs none) (dropPermit h) := by
  refine Routine.keeps_bind Routine.keeps_get fun w => ?_
  dsimp only
  split
  · exact Routine.keeps_bind (minds_modifyHandle (fun _ => rfl) fun _ => rfl) fun _ => minds_modifyPermits _
  · exact Routine.keeps_pure _

/-- What is lent and evicted leaves nothing behind: the connection is closed, or the handle was one of theirs
and they gave it back. -/
theorem ends_evict {a : Unit} (hv : u.Lends theirs h v) (hx : Routine.Ends others (evict h) now v a later w') :
    u.Minds theirs none w' := by
  obtain ⟨first, t₁, w₁, h1, hx⟩ := Routine.ends_bind.1 hx
  obtain ⟨rfl, -, rfl⟩ := ends_markReturned h1
  have hm : u.Minds theirs (some (v.handle h).conn) (v.modifyHandle h fun e => { e with returned := true }) :=
    hv.minds.modifyHandle hv.new (fun _ => rfl) fun _ _ => rfl
  have hconn : ((v.modifyHandle h fun e => { e with returned := true }).handle h).conn = (v.handle h).conn := by
    rw [handle_modifyHandle hv.known, if_pos rfl]
  split at hx
  · have hx := Routine.ends_get_bind.1 hx
    have hx := Routine.ends_modify_bind.1 hx
    obtain ⟨_, t₂, w₂, h2, hx⟩ := Routine.ends_bind.1 hx
    obtain ⟨_, t₃, w₃, h3, hx⟩ := Routine.ends_bind.1 hx
    rw [hconn] at h3
    have hw₂ := (hm.along (.modifyPool (List.Subset.refl _))).along ((minds_log _ _).ends h2)
    exact (ends_hangUpQuietly h3 hw₂).after (minds_dropPermit.ends hx)
  · next hret =>
    obtain ⟨-, -, rfl⟩ := Routine.ends_pure.1 hx
    have htheirs : theirs (.pooled h) := by
      refine Classical.byContradiction fun hn => hret ?_
      rw [hv.unreturned hn]
      rfl
    refine hm.pass ⟨h, htheirs, hv.new, ?_, hconn⟩
    simpa [World.modifyHandle] using hv.known

/-! ## Pools -/

theorem meets_closeIdle {key : String} {cs : List ConnId} (hu : u.Minds theirs none v)
    (hcs : ∀ c ∈ cs, ∀ l, u.Owns l → l ≠ .direct c) :
    Routine.Meets others (closeIdle key cs) v (u.Minds theirs none) fun _ => u.Minds theirs none := by
  induction cs generalizing v with
  | nil => exact fun _ => hu
  | cons c cs ih =>
    have hrest : ∀ c ∈ cs, ∀ l, u.Owns l → l ≠ .direct c := fun d hd => hcs d (List.mem_cons_of_mem c hd)
    refine Routine.meets_bind ((meets_hangUp hu (by simp) fun l _ ho _ => hcs c List.mem_cons_self l ho).imp ?_)
    intro r w hw
    cases r with
    | ok _ => exact ih hw hrest
    | error e =>
      refine Routine.meets_bind (((minds_log _ _ w).since hw).imp fun _ x hx => ?_)
      exact Routine.meets_bind ((ih (hw.after hx) hrest).imp fun _ _ h _ => h)

/-- A pool that is closed closes its idle connections, and no own link leads to one. -/
theorem minds_closePool : Routine.Keeps others (Minds (D := D) theirs none) (closePool id) := by
  intro w
  refine Routine.meets_get_bind ?_
  dsimp only
  split
  · exact fun _ => Minds.refl w
  · have hw : w.Minds theirs none (w.modifyPool id fun p => { p with closed := true, idle := [] }) :=
      .modifyPool (List.nil_subset _)
    refine Routine.meets_bind fun _ => Routine.meets_bind ((meets_closeIdle hw ?_).imp fun n x hx => ?_)
    · rintro c hc l ho rfl
      exact ho.apart c rfl id (List.mem_reverse.1 hc)
    · refine Routine.meets_bind (((minds_log _ _ x).since hx).imp fun _ y hy => ?_)
      split <;> exact fun _ => hx.after hy

theorem poolKeeper_bears_minds : (poolKeeper (D := D)).Bears others (Minds theirs none) :=
  ⟨fun _ => Routine.keeps_modify fun _ => Apart.minds (.of_eq rfl rfl rfl), minds_log,
    poolKeeper_release fun _ => minds_closePool⟩

end World

/-! ## Providers -/

/-- Between two worlds a link was provided, or nothing is left. -/
def World.Attains (theirs : Link → Prop) (w : World D) : Except RouteError Link → World D → Prop
  | .ok (.direct c), w' => w.Minds theirs (some c) w'
  | .ok (.pooled h), w' => w.Lends theirs h w'
  | .error _, w' => w.Minds theirs none w'

section Providers

variable {others : World D → World D → Prop} {theirs : Link → Prop} [Minding others theirs] [Backend D]
  {now later : Instant} {w w' : World D}

open World

omit [Minding others theirs] [Backend D] in
/-- A new pool has no connections. -/
theorem PooledProvider.minds_createPool (provider : PooledProvider) (key protocol : String) (host : Host)
    (props : Properties) (w : World D) :
    w.Minds theirs none (provider.createPool key protocol host props w).2 := by
  unfold createPool
  dsimp only
  split
  · next pool hpool =>
    have hidle : pool.idle = [] := by
      unfold Pool.create at hpool
      split at hpool
      · cases hpool
      · cases hpool
        rfl
    exact (minds_note rfl rfl w).after (.append_pool hidle _)
  · exact minds_note rfl rfl w

/-- Trying to borrow a valid connection leaves nothing behind but the handle that it may end with. -/
theorem PooledProvider.ends_connectWithin {provider : PooledProvider} {protocol : String} {host : Host}
    {props : Properties} {left invalid : Nat} {cause : Option RouteError} {r : Except RouteError HandleId}
    (hx : Routine.Ends others (provider.connectWithin protocol host props left invalid cause) now w r later w') :
    w.Borrows theirs r w' := by
  induction left generalizing invalid cause w now with
  | zero =>
    obtain ⟨rfl, -, rfl⟩ := Routine.ends_pure.1 hx
    exact Minds.refl _
  | succ left ih =>
    obtain ⟨r₁, t₁, w₁, h1, hx⟩ := Routine.ends_bind.1 hx
    have hw₁ : w.Minds theirs none w₁ :=
      (poolKeeper_bears_minds.computeIfAbsent _ (provider.minds_createPool _ _ _ _)).ends h1
    cases r₁ with
    | error e =>
      obtain ⟨rfl, -, rfl⟩ := Routine.ends_pure.1 hx
      exact hw₁
    | ok id =>
      obtain ⟨r₂, t₂, w₂, h2, hx⟩ := Routine.ends_bind.1 hx
      have hw₂ : w.Borrows theirs r₂ w₂ := (ends_borrow h2).since hw₁
      cases r₂ with
      | error e =>
        have hx := Routine.ends_get_bind.1 hx
        split at hx
        · obtain ⟨_, t₃, w₃, h3, hx⟩ := Routine.ends_bind.1 hx
          exact (ih hx).since (hw₂.after ((minds_log _ _).ends h3))
        · split at hx
          all_goals
            obtain ⟨rfl, -, rfl⟩ := Routine.ends_pure.1 hx
            exact hw₂
      | ok h =>
        -- the borrowed connection is checked, and given up if it is not valid
        have hx := Routine.ends_get_bind.1 hx
        obtain ⟨valid, t₃, w₃, h3, hx⟩ := Routine.ends_bind.1 hx
        have hw₃ := Lends.along hw₂ ((minds_isValid _).ends h3)
        split at hx
        · obtain ⟨rfl, -, rfl⟩ := Routine.ends_pure.1 hx
          exact hw₃
        · obtain ⟨_, t₄, w₄, h4, hx⟩ := Routine.ends_bind.1 hx
          obtain ⟨_, t₅, w₅, h5, hx⟩ := Routine.ends_bind.1 hx
          have hw₅ := ends_evict (hw₃.along ((minds_log _ _).ends h4)) h5
          exact (ih hx).since hw₅

/-- An attempt leaves nothing behind but the link that it ends with. -/
theorem Providers.ends_connect {ps : Providers} {protocol : String} {host : Host} {props : Properties}
    {r : Except RouteError Link} (hx : Routine.Ends others (ps.connect protocol host props) now w r later w') :
    w.Attains theirs r w' := by
  obtain ⟨_, t₁, w₁, h1, hx⟩ := Routine.ends_bind.1 hx
  have hw₁ : w.Minds theirs none w₁ := (minds_log _ _).ends h1
  split at hx
  · obtain ⟨r, t₂, w₂, h2, hx⟩ := Routine.ends_bind.1 hx
    obtain ⟨rfl, -, rfl⟩ := Routine.ends_pure.1 hx
    have hw' : w.Borrows theirs r w' := (PooledProvider.ends_connectWithin h2).since hw₁
    cases r with
    | ok h => exact hw'
    | error e => exact hw'
  · obtain ⟨r, t₂, w₂, h2, hx⟩ := Routine.ends_bind.1 hx
    obtain ⟨rfl, -, rfl⟩ := Routine.ends_pure.1 hx
    have hw' : w.Minds theirs r.toOption w' := hw₁.after (ends_dial h2)
    cases r with
    | ok c => exact hw'
    | error e => exact hw'

end Providers

end ReplicaRouter
