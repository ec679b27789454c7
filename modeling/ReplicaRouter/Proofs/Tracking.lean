import ReplicaRouter.Proofs.Reach
/-
The transaction state of the database session behind each connection, as the operations tell that were
successful over it. It follows the same rules as the state that the logical connection keeps of its own,
and changes only when an operation succeeds over that very connection.
Main statements: `Leg.Taken.spares`, `Leg.Passes.transactionOf_eq` and `Run.last_success`.
-/
namespace ReplicaRouter

variable {D : Type}

/-! ## States of sessions -/

namespace TransactionState

/-- What an entry of the journal means for the session behind a connection. -/
def afterEntry (c : ConnId) : Entry → TransactionState → TransactionState
  | .call (.connect _ _ _ (some d)), t => if d = c then {} else t
  | .call (.invoke d _ op (.ok _)), t => if d = c then t.after op else t
  | .call (.close d (.ok _)), t => if d = c then t.after .close else t
  | _, t => t

/-- Where the autocommit modes agree, no operation opens a transaction in one state only. -/
theorem isOpen_after_imp {s t : TransactionState} {op : Operation} (ha : s.autocommit = t.autocommit)
    (ho : s.isOpen = true → t.isOpen = true) : (s.after op).isOpen = true → (t.after op).isOpen = true := by
  have hset : ∀ b : Bool, (s.setAutocommit b).isOpen = true → (t.setAutocommit b).isOpen = true := by
    intro b
    simp only [setAutocommit, ha, Bool.and_eq_true]
    exact fun h => ⟨ho h.1, h.2⟩
  have hstatement : ∀ sql : List Char,
      (s.afterStatement sql).isOpen = true → (t.afterStatement sql).isOpen = true := by
    intro sql
    unfold afterStatement
    rw [ha]
    split
    · split
      · exact hset _
      · exact ho
    · split
      · exact fun _ => rfl
      · exact ho
  have hsql : ∀ sql : String,
      (if Statement.closesTransaction sql.toList then s.closed else s.afterStatement sql.toList).isOpen = true →
      (if Statement.closesTransaction sql.toList then t.closed else t.afterStatement sql.toList).isOpen = true := by
    intro sql
    split
    · exact fun h => nomatch h
    · exact hstatement _
  cases op with
  | query sql => exact hsql sql
  | update sql => exact hsql sql
  | execute sql => exact hsql sql
  | setReadOnly _ => exact ho
  | setAutocommit b => exact hset b
  | commit => exact fun h => nomatch h
  | rollback => exact fun h => nomatch h
  | close => exact fun h => nomatch h

end TransactionState

namespace World

/-- The transaction state of the database session behind a connection: what was successful over it since
it was opened. -/
def transactionOf (w : World D) (c : ConnId) : TransactionState :=
  w.journal.foldr (TransactionState.afterEntry c) {}

/-- Between two worlds nothing changed for the session behind a connection, or the connection was opened. -/
structure Spares (w w' : World D) (c : ConnId) : Prop where
  kept : c ∈ w.opened → w'.transactionOf c = w.transactionOf c
  fresh : c ∉ w.opened → c ∈ w'.opened → w'.transactionOf c = {}

variable {u v w w' : World D} {c : ConnId}

/-- A connection of its own that is not among the closed ones is not shut. -/
theorem not_shut_of_closedConn? (h : c ∉ w.journal.filterMap Entry.closedConn?) : ¬ w.Shut (.direct c) := by
  rintro ⟨r, hr⟩
  exact h (List.mem_filterMap.2 ⟨_, hr, rfl⟩)

theorem opened_eq_of_journal (h : w'.journal = w.journal) : w'.opened = w.opened :=
  congrArg (List.filterMap Entry.opened?) h

theorem transactionOf_eq_of_journal (h : w'.journal = w.journal) : w'.transactionOf c = w.transactionOf c := by
  unfold transactionOf
  rw [h]

theorem Spares.of_journal_eq (h : w'.journal = w.journal) : w.Spares w' c :=
  ⟨fun _ => transactionOf_eq_of_journal h, fun hn hc => absurd (opened_eq_of_journal h ▸ hc) hn⟩

/-- A transaction that is open after was open before, as new sessions have none. -/
theorem Spares.open_before (h : w.Spares w' c) (hk : c ∈ w'.opened) (ht : (w'.transactionOf c).isOpen = true) :
    c ∈ w.opened ∧ (w.transactionOf c).isOpen = true := by
  by_cases hc : c ∈ w.opened
  · rw [h.kept hc] at ht
    exact ⟨hc, ht⟩
  · rw [h.fresh hc hk] at ht
    cases ht

theorem Spares.trans (hg : u.Grows v) (h1 : u.Spares v c) (h2 : v.Spares w c) : u.Spares w c := by
  have hmono : c ∈ u.opened → c ∈ v.opened := fun hc => Knows.mono hg (l := .direct c) hc
  refine ⟨fun hc => (h2.kept (hmono hc)).trans (h1.kept hc), fun hn hc => ?_⟩
  by_cases hv : c ∈ v.opened
  · exact (h2.kept hv).trans (h1.fresh hn hv)
  · exact h2.fresh hv hc

end World

/-! ### What leaves sessions alone -/

/-- The connection behind which an operation changed the session, as the entry tells: one that succeeded, and does more
than set a mode. -/
def Entry.touched? : Entry → Option ConnId
  | call (.invoke _ _ (.setReadOnly _) _) => none
  | call (.invoke c _ _ (.ok _)) => some c
  | _ => none

theorem Entry.Quiet.touched?_eq_none {es : List Entry} (h : Entry.Quiet es) : ∀ e ∈ es, e.touched? = none := by
  induction h with
  | nil => exact List.forall_mem_nil _
  | @note e es unsent _ ih =>
    refine List.forall_mem_cons.2 ⟨?_, ih⟩
    unfold touched?
    split
    · rfl
    · cases unsent
    · rfl
  | setUp _ ih => exact List.forall_mem_cons.2 ⟨rfl, List.forall_mem_cons.2 ⟨rfl, ih⟩⟩

namespace TransactionState

/-- An entry that does not tell of an operation tells of a session only that it began, or that it ended. -/
theorem afterEntry_cases {c : ConnId} {e : Entry} (h : e.touched? ≠ some c) (t : TransactionState) :
    (e.opened? = some c ∧ afterEntry c e t = {}) ∨
      e.opened? ≠ some c ∧ (afterEntry c e t = t ∨ (∃ r, e = .call (.close c r)) ∧ afterEntry c e t = t.closed) := by
  -- of the entries that tell of no operation there, only an opening and a close bear on its session
  cases e with
  | call e =>
    cases e with
    | connect p host ps opened =>
      cases opened with
      | none => exact .inr ⟨nofun, .inl rfl⟩
      | some d =>
        by_cases hd : d = c
        · exact .inl ⟨congrArg some hd, if_pos hd⟩
        · exact .inr ⟨fun hopened => hd (Option.some.inj hopened), .inl (if_neg hd)⟩
    | invoke d o op r =>
      refine .inr ⟨nofun, .inl ?_⟩
      cases r with
      | error e => rfl
      | ok reply =>
        by_cases hd : d = c
        · subst hd
          cases op with
          | setReadOnly b => exact ite_self t
          | _ => exact absurd rfl h
        · exact if_neg hd
    | validate => exact .inr ⟨nofun, .inl rfl⟩
    | close d r =>
      refine .inr ⟨nofun, ?_⟩
      cases r with
      | error e => exact .inl rfl
      | ok _ =>
        by_cases hd : d = c
        · subst hd
          exact .inr ⟨⟨_, rfl⟩, if_pos rfl⟩
        · exact .inl (if_neg hd)
  | _ => exact .inr ⟨nofun, .inl rfl⟩

/-- As long as no operation changes it, a session is what it was, or new if the connection was opened. -/
theorem foldr_afterEntry {es : List Entry} {c : ConnId} (htouched : ∀ e ∈ es, e.touched? ≠ some c)
    (hopen : ∀ r, .call (.close c r) ∉ es) (t : TransactionState) :
    es.foldr (afterEntry c) t = if c ∈ es.filterMap Entry.opened? then {} else t := by
  induction es with
  | nil => rfl
  | cons e es ih =>
    have ih := ih (fun e he => htouched e (List.mem_cons_of_mem _ he)) fun r hr => hopen r (List.mem_cons_of_mem _ hr)
    rw [List.foldr_cons, ih, List.filterMap_cons]
    rcases afterEntry_cases (htouched e List.mem_cons_self) (if c ∈ es.filterMap Entry.opened? then {} else t) with
      ⟨hopened, hsame⟩ | ⟨hopened, hsame | ⟨⟨r, rfl⟩, -⟩⟩
    · rw [hopened, hsame]
      exact (if_pos List.mem_cons_self).symm
    · rw [hsame]
      cases hother : e.opened? with
      | none => rfl
      | some d =>
        have hd : c ≠ d := fun hd => hopened (hother.trans (congrArg some hd.symm))
        simp only [List.mem_cons, hd, false_or]
    · exact absurd List.mem_cons_self (hopen r)

/-- A session as it is at first stays so as long as no operation changes it. -/
theorem foldr_afterEntry_new {es : List Entry} {c : ConnId} (htouched : ∀ e ∈ es, e.touched? ≠ some c) :
    es.foldr (afterEntry c) {} = {} := by
  induction es with
  | nil => rfl
  | cons e es ih =>
    rw [List.foldr_cons, ih fun e he => htouched e (List.mem_cons_of_mem _ he)]
    rcases afterEntry_cases (htouched e List.mem_cons_self) {} with ⟨-, hsame⟩ | ⟨-, hsame | ⟨-, hsame⟩⟩
    · exact hsame
    · exact hsame
    · exact hsame

end TransactionState

/-- Where no operation changes a session, it is as it was, or new if its connection was opened. -/
theorem World.transactionOf_of_append {w w' : World D} {c : ConnId} {es : List Entry}
    (hj : w'.journal = es ++ w.journal) (htouched : ∀ e ∈ es, e.touched? ≠ some c) (hopen : ¬ w'.Shut (.direct c)) :
    w'.transactionOf c = if c ∈ es.filterMap Entry.opened? then {} else w.transactionOf c := by
  rw [transactionOf, hj, List.foldr_append]
  exact TransactionState.foldr_afterEntry htouched
    (fun r hr => hopen ⟨r, by rw [hj]; exact List.mem_append_left _ hr⟩) _

/-- Where no operation changes a session, it is spared. -/
theorem World.spares_of_append {w w' : World D} {c : ConnId} {es : List Entry} (hj : w'.journal = es ++ w.journal)
    (htouched : ∀ e ∈ es, e.touched? ≠ some c) (fresh : w'.opened.Nodup) (hopen : ¬ w'.Shut (.direct c)) :
    w.Spares w' c := by
  have heq := transactionOf_of_append hj htouched hopen
  have hopened : w'.opened = es.filterMap Entry.opened? ++ w.opened := by
    rw [opened, hj, List.filterMap_append]; rfl
  refine ⟨fun hc => ?_, fun hn hc => ?_⟩
  · -- a connection is not opened a second time
    rw [hopened] at fresh
    rw [heq, if_neg fun hes => (List.nodup_append.1 fresh).2.2 c hes c hc rfl]
  · rw [hopened] at hc
    rw [heq, if_pos ((List.mem_append.1 hc).resolve_right hn)]

theorem World.Upkeep.spares {w w' : World D} {c : ConnId} (h : w.Upkeep w') (fresh : w'.opened.Nodup)
    (hopen : ¬ w'.Shut (.direct c)) : w.Spares w' c := by
  obtain ⟨es, hes, hj⟩ := h.quiet
  exact spares_of_append hj (fun e he => by rw [hes.touched?_eq_none e he]; exact nofun) fresh hopen

/-! ## Operations -/

/-- Running an operation spares the session behind every connection that it does not succeed over. -/
theorem Place.Performs.spares {p q : Place D} {op : Operation} {ans : Answer} {c : ConnId}
    (h : p.Performs op ans q) (hd : ∀ l, p.service.link? = some l → ∃ d, l = .direct d)
    (hn : ∀ reply, ans = .ok reply → p.service.link? ≠ some (.direct c)) (fresh : q.world.opened.Nodup)
    (hopen : ¬ q.world.Shut (.direct c)) : p.world.Spares q.world c := by
  cases h with
  | missing => exact .of_journal_eq rfl
  | unsent _ _ _ _ world => exact .of_journal_eq (congrArg (fun w => w.journal) world)
  | @sent _ l o _ v _ link open_ aside world service =>
    obtain ⟨d, rfl⟩ := hd l link
    have hopened : q.world.opened = v.opened := by rw [world]; rfl
    have hsame : q.world.transactionOf c = v.transactionOf c := by
      rw [world]
      cases ans with
      | error e => rfl
      | ok reply => exact if_neg fun hdc => hn reply rfl (link.trans (congrArg (some ∘ Link.direct) hdc))
    have hv : p.world.Spares v c := .of_journal_eq aside.journal
    refine ⟨fun hc => hsame.trans (hv.kept hc), fun hne hc => hsame.trans (hv.fresh hne ?_)⟩
    rw [← hopened]
    exact hc
  | closed _ upkeep => exact upkeep.spares fresh hopen

/-! ## Legs and runs -/

section Legs

variable {others : World D → World D → Prop} [Backend D]

namespace Leg

/-- The operation of a call succeeds over a connection, sent in this stand. -/
def SucceedsAt (others : World D → World D → Prop) (k : Leg D) (c : ConnId) (s₁ : Stand D) : Prop :=
  ∃ reply s₂, k.Passes others s₁ (.ok reply) s₂ ∧ s₁.service.link? = some (.direct c)

/-- The operation of a call succeeds over a connection. -/
def Succeeds (others : World D → World D → Prop) (k : Leg D) (c : ConnId) : Prop :=
  ∃ s₁, k.SucceedsAt others c s₁

variable [Bystanders others] {k : Leg D} {s₁ s₂ : Stand D} {ans : Answer} {c : ConnId}

/-- An operation that succeeds over a connection changes the state of the session behind it. -/
theorem SucceedsAt.transactionOf_eq (h : k.SucceedsAt others c s₁) (hk : c ∈ s₁.world.opened)
    (fresh : k.after.world.opened.Nodup) (hopen : ¬ k.after.world.Shut (.direct c)) :
    k.after.world.transactionOf c = (s₁.world.transactionOf c).after k.op := by
  obtain ⟨reply, s₂, hp, hl⟩ := h
  have hop : k.op ≠ .close := fun hop => hopen (hp.shut_of_close hop hl hk)
  have hout : s₂.toPlace.world.Upkeep k.after.world := Split.leaveFor_upkeep hp.left
  have hperforms := hp.performs
  generalize s₂.toPlace = q at hperforms hout
  generalize hans : (Except.ok reply : Answer) = ans at hperforms
  generalize k.op = op at hperforms hop ⊢
  cases hperforms with
  | missing none => rw [hl] at none; cases none
  | unsent => cases hans
  | @sent _ l o _ v _ link _ aside world _ =>
    obtain rfl := Option.some.inj (hl.symm.trans link)
    have hsent : q.world.transactionOf c = (v.transactionOf c).after op := by
      rw [world, ← hans]
      exact if_pos rfl
    have hkq : c ∈ q.world.opened := by
      rw [world]
      show c ∈ v.opened
      rw [World.opened_eq_of_journal aside.journal]
      exact hk
    rw [(hout.spares fresh hopen).kept hkq, hsent, World.transactionOf_eq_of_journal aside.journal]
  | closed => exact absurd rfl hop

/-- A call spares the session behind every connection that its operation does not succeed over. -/
theorem Taken.spares (h : k.Taken others) (hu : k.before.toStand.Unpooled) (fresh : k.after.world.opened.Nodup)
    (hopen : ¬ k.after.world.Shut (.direct c)) (hn : ¬ k.Succeeds others c) :
    k.before.world.Spares k.after.world c := by
  rcases h.course with ⟨_, stays, _, _⟩ | ⟨_, refuses, _, _⟩ | @⟨s₁, s₂, ans, passes⟩
  · exact .of_journal_eq (congrArg (fun s => s.world.journal) stays)
  · exact refuses.upkeep.spares fresh hopen
  · have hin := passes.prepares.upkeep
    have hout : s₂.world.Upkeep k.after.world := Split.leaveFor_upkeep passes.left
    have hgrows : s₁.world.Grows s₂.world := passes.performs.grows
    have hfresh₂ := hout.grows.nodup fresh
    have hopen₂ : ¬ s₂.world.Shut (.direct c) := fun hs => hopen (hs.mono hout.grows)
    have hopen₁ : ¬ s₁.world.Shut (.direct c) := fun hs => hopen₂ (hs.mono hgrows)
    have hdirect : ∀ l, s₁.service.link? = some l → ∃ d, l = .direct d := fun l hl =>
      (passes.prepares.renews.unpooled hu).direct l (Stand.reaches_or_stale hl)
    have hnot : ∀ reply, ans = .ok reply → s₁.service.link? ≠ some (.direct c) := by
      rintro reply rfl hl
      exact hn ⟨s₁, reply, s₂, passes, hl⟩
    have hperformed : s₁.world.Spares s₂.world c := passes.performs.spares hdirect hnot hfresh₂ hopen₂
    have hprepared := hin.spares (hgrows.nodup hfresh₂) hopen₁
    exact (hprepared.trans hin.grows hperformed).trans (hin.grows.trans hgrows) (hout.spares fresh hopen)

end Leg

namespace Run

variable [Bystanders others] {s u : Session D} {ks : List (Leg D)} {c : ConnId}

/-- Calls that do not succeed over a connection spare the session behind it. -/
theorem spares (h : Run others s ks u) (hs : s.toStand.Unpooled) (hc : u.closed = false)
    (fresh : u.world.opened.Nodup) (hopen : ¬ u.world.Shut (.direct c)) (hn : ∀ k ∈ ks, ¬ k.Succeeds others c) :
    s.world.Spares u.world c := by
  induction h with
  | start => exact .of_journal_eq rfl
  | aside run change _ ih =>
    have haside := Bystanders.aside change
    have hg := haside.upkeep.grows
    have hbefore := ih hc (hg.nodup fresh) (fun hs => hopen (hs.mono hg)) hn
    exact hbefore.trans run.grows (.of_journal_eq haside.journal)
  | @call ks k run taken ih =>
    have hg := taken.grows
    have hfree := taken.free hc
    have hbefore := ih hfree (hg.nodup fresh) (fun hs => hopen (hs.mono hg)) fun j hj =>
      hn j (List.mem_append_left _ hj)
    have hlast := hn k (List.mem_append_right _ List.mem_cons_self)
    exact hbefore.trans run.grows (taken.spares (run.unpooled hfree hs) fresh hopen hlast)

/-- A transaction that is open in a session was left open by the last operation that succeeded there, or
it was open from the beginning. -/
theorem last_success (h : Run others s ks u) (hs : s.toStand.Unpooled) (hc : u.closed = false)
    (fresh : u.world.opened.Nodup) (hopen : ¬ u.world.Shut (.direct c)) (hk : c ∈ u.world.opened)
    (ht : (u.world.transactionOf c).isOpen = true) :
    (∃ is j is', ks = is ++ j :: is' ∧ j.Succeeds others c ∧
      (j.after.world.transactionOf c).isOpen = true ∧ ∀ i ∈ is', ¬ i.Succeeds others c) ∨
    (c ∈ s.world.opened ∧ (s.world.transactionOf c).isOpen = true ∧ ∀ k ∈ ks, ¬ k.Succeeds others c) := by
  induction h with
  | start => exact .inr ⟨hk, ht, fun _ hk => nomatch hk⟩
  | aside run change _ ih =>
    have haside := Bystanders.aside change
    have hg := haside.upkeep.grows
    refine ih hc (hg.nodup fresh) (fun hs => hopen (hs.mono hg)) ?_ ?_
    · rw [← World.opened_eq_of_journal haside.journal]; exact hk
    · rw [← World.transactionOf_eq_of_journal haside.journal]; exact ht
  | @call ks k run taken ih =>
    by_cases hlast : k.Succeeds others c
    · -- this call is the last one that succeeded
      exact .inl ⟨ks, k, [], rfl, hlast, ht, fun _ hi => nomatch hi⟩
    have hg := taken.grows
    have hfree := taken.free hc
    obtain ⟨hkb, ht⟩ := (taken.spares (run.unpooled hfree hs) fresh hopen hlast).open_before hk ht
    -- this call did not succeed there, so it spared the session
    rcases ih hfree (hg.nodup fresh) (fun hs => hopen (hs.mono hg)) hkb ht with
      ⟨is, j, is', rfl, hj, htj, hrest⟩ | ⟨hks, hts, hnone⟩
    · refine .inl ⟨is, j, is' ++ [k], by rw [List.append_assoc]; rfl, hj, htj, fun i hi => ?_⟩
      rcases List.mem_append.1 hi with hi | hi
      · exact hrest i hi
      · rw [List.mem_singleton.1 hi]; exact hlast
    · refine .inr ⟨hks, hts, fun i hi => ?_⟩
      rcases List.mem_append.1 hi with hi | hi
      · exact hnone i hi
      · rw [List.mem_singleton.1 hi]; exact hlast

end Run

end Legs

end ReplicaRouter
