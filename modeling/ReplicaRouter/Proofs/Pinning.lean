import ReplicaRouter.Proofs.Staging
/-
While a transaction is open the current link stays what it is, whatever the calls and their outcomes
are, so all that a transaction runs goes over one link.
Main statement: `Run.pinned_by_transaction`.
-/
namespace ReplicaRouter

variable {D : Type}

/-! ## Moves -/

namespace Seats

variable {new : Link → Prop} {readOnly : Bool} {p q : Seats} {r : Except RouteError Unit}

/-- A switch does not move the current link while a transaction is open. -/
theorem Switches.current_eq (h : p.Switches new true readOnly r q) : q.current = p.current := by
  cases h with
  | toReader _ remembers turns =>
    rw [← remembers.current_eq]
    cases turns with
    | fails _ free => cases free
    | kept free => cases free
    | opened free => cases free
    | writer free => cases free
    | _ => rfl
  | toWriter _ remembers turns =>
    rw [← remembers.current_eq]
    cases turns with
    | fails _ free => cases free
    | writer free => cases free
    | _ => rfl

end Seats

namespace Stand

variable {s s' : Stand D} {op : Operation}

theorem Turns.current_eq {readOnly : Bool} {r : Except RouteError Unit} (ht : s.service.inTransaction = true)
    (h : s.Turns readOnly r s') : s'.service.current = s.service.current := by
  cases h with
  | fails switches leads =>
    rw [ht] at switches
    exact (congrArg Seats.current leads.seats).trans switches.current_eq
  | succeeds switches releases leads _ =>
    rw [ht] at switches
    exact (congrArg Seats.current leads.seats).trans (releases.current_eq.trans switches.current_eq)

theorem Recovers.current_eq {r : Except RouteError Unit} (ht : s.service.inTransaction = true)
    (h : s.Recovers r s') : s'.service.current = s.service.current := by
  cases h with
  | sound _ => rfl
  | turns _ turns => exact turns.current_eq ht

theorem Balances.current_eq (ht : s.service.inTransaction = true) (h : s.Balances s') :
    s'.service.current = s.service.current := by
  cases h with
  | stays => rfl
  | rotates _ free => rw [ht] at free; cases free

theorem Refuses.current_eq {e : RouteError} (ht : s.service.inTransaction = true) (h : s.Refuses op e s') :
    s'.service.current = s.service.current := by
  cases h with
  | mode turns => exact turns.current_eq ht
  | plain _ recovers => exact recovers.current_eq ht

theorem Prepares.current_eq (ht : s.service.inTransaction = true) (h : s.Prepares op s') :
    s'.service.current = s.service.current := by
  cases h with
  | mode turns =>
    have hu := turns.current_eq ht
    exact hu
  | close => rfl
  | @plain _ u _ _ recovers balances =>
    have hu : u.service.inTransaction = true := by
      rw [Service.inTransaction, recovers.transaction_eq]; exact ht
    exact (balances.current_eq hu).trans (recovers.current_eq ht)

end Stand

/-! ## Legs -/

/-- Where no link is current nothing changes. -/
theorem Place.Performs.link_or_service_eq {p q : Place D} {op : Operation} {ans : Answer}
    (h : p.Performs op ans q) : (∃ l, p.service.link? = some l) ∨ q.service = p.service := by
  cases h with
  | missing => exact .inr rfl
  | unsent link => exact .inl ⟨_, link⟩
  | sent link => exact .inl ⟨_, link⟩
  | closed link => exact .inl ⟨_, link⟩

section Legs

variable {others : World D → World D → Prop} [Bystanders others] [Backend D]

namespace Leg

variable {k : Leg D}

/-- A call that starts with a transaction open does not move the current link. -/
theorem Taken.current_eq (h : k.Taken others) (ht : k.before.service.inTransaction = true) :
    k.after.service.current = k.before.service.current := by
  rcases h.course with ⟨_, stays, _, _⟩ | ⟨_, refuses, _, _⟩ | ⟨passes⟩
  · rw [stays]
  · exact refuses.current_eq ht
  · exact passes.current_eq.trans (passes.prepares.current_eq ht)

theorem RunsOver.link?_eq {l : Link} (h : k.RunsOver others l) : k.after.service.link? = some l := by
  obtain ⟨s₁, ans, s₂, hp, hl⟩ := h
  rw [← hl]
  exact congrArg (Option.map Prod.fst) hp.current_eq

/-- Only an operation that runs over a link can open a transaction. -/
theorem Taken.exists_runsOver (h : k.Taken others) (hb : k.before.service.inTransaction = false)
    (ha : k.after.service.inTransaction = true) : ∃ l, k.RunsOver others l := by
  have hne : k.after.service.transaction ≠ k.before.service.transaction := fun he => by
    rw [Service.inTransaction, he] at ha
    rw [Service.inTransaction, ha] at hb
    cases hb
  rcases h.course with ⟨_, stays, _, _⟩ | ⟨_, refuses, _, _⟩ | ⟨passes⟩
  · exact absurd (by rw [stays]) hne
  · exact absurd refuses.transaction_eq hne
  · have hleft := (Split.leaveFor_alone passes.left).2.1
    rcases passes.performs.link_or_service_eq with ⟨l, hl⟩ | hsame
    · exact ⟨l, _, _, _, passes, hl⟩
    · rw [hsame] at hleft
      exact absurd (hleft.trans passes.prepares.transaction_eq) hne

end Leg

/-- What is current stays current along calls that all start with a transaction open. -/
theorem Run.current_eq {s s' : Session D} {ks : List (Leg D)} (h : Run others s ks s')
    (ht : ∀ k ∈ ks, k.before.service.inTransaction = true) : s'.service.current = s.service.current := by
  induction h with
  | start => rfl
  | aside _ _ _ ih => exact ih ht
  | call run taken ih =>
    have hlast := taken.current_eq (ht _ (List.mem_append_right _ List.mem_cons_self))
    exact hlast.trans (ih fun k hk => ht k (List.mem_append_left _ hk))

/-- While a transaction is open the current link stays, whatever the outcome of the calls; and all the
operations from the one that opens a transaction to the one that ends it run over one link. -/
theorem Run.pinned_by_transaction {s s' : Session D} {ks : List (Leg D)} (h : Run others s ks s') :
    (∀ k ∈ ks, k.before.service.inTransaction = true →
      k.after.service.link? = k.before.service.link?) ∧
    ∀ (before : List (Leg D)) (k : Leg D) (inside after : List (Leg D)),
      ks = before ++ k :: (inside ++ after) →
      k.before.service.inTransaction = false → k.after.service.inTransaction = true →
      (∀ j ∈ inside, j.before.service.inTransaction = true) →
      ∃ l, k.RunsOver others l ∧ ∀ j ∈ inside, ∀ l', j.RunsOver others l' → l' = l := by
  constructor
  · intro k hk ht
    obtain ⟨as, bs, rfl⟩ := List.append_of_mem hk
    exact congrArg (Option.map Prod.fst) (h.split.2.1.current_eq ht)
  · rintro before k inside after rfl hb ha hin
    obtain ⟨-, hk, hrest⟩ := h.split
    obtain ⟨l, hl⟩ := hk.exists_runsOver hb ha
    refine ⟨l, hl, fun j hj l' hl' => ?_⟩
    obtain ⟨as, bs, rfl⟩ := List.append_of_mem hj
    rw [List.append_assoc, List.cons_append] at hrest
    obtain ⟨hrun, htaken, -⟩ := hrest.split
    have hbefore := hrun.current_eq fun i hi => hin i (List.mem_append_left _ hi)
    have hafter := (htaken.current_eq (hin j hj)).trans hbefore
    have hlink : j.after.service.link? = k.after.service.link? := congrArg (Option.map Prod.fst) hafter
    rw [hl'.link?_eq, hl.link?_eq] at hlink
    exact Option.some.inj hlink

end Legs

/-- A transaction during which the application asks for the other mode. -/
def Stage.transaction : List (Leg Sim.Cluster) × Session Sim.Cluster :=
  (session.calls? [.execute "begin", .setReadOnly true, .query "select 1", .commit]).get (by decide +kernel)

/-- The call that begins the transaction. -/
def Stage.beginning : Leg Sim.Cluster := Stage.transaction.1.head (by decide +kernel)

theorem Run.pinned_by_transaction_of_stage :
    Run World.Aside Stage.session Stage.transaction.1 Stage.transaction.2 ∧
      Stage.transaction.1.map (·.before.service.inTransaction) = [false, true, true, true] ∧
      (∀ k ∈ Stage.transaction.1, k.before.service.inTransaction = true →
        k.after.service.link? = k.before.service.link?) ∧
      Stage.beginning.RunsOver World.Aside (.direct 0) ∧
      ∀ j ∈ Stage.transaction.1.tail, ∀ l, j.RunsOver World.Aside l → l = .direct 0 := by
  have h : Run World.Aside Stage.session Stage.transaction.1 Stage.transaction.2 :=
    Session.run_of_get _
  -- the transaction is the whole run: nothing comes before it, and its last call ends it
  have hsplit : Stage.transaction.1 = [] ++ Stage.beginning :: (Stage.transaction.1.tail ++ []) := by
    rw [List.append_nil, List.nil_append]
    exact (List.cons_head_tail _).symm
  obtain ⟨hstays, hone⟩ := Run.pinned_by_transaction h
  obtain ⟨l, hbegins, hinside⟩ := hone _ _ _ _ hsplit (by decide +kernel) (by decide +kernel) (by decide +kernel)
  obtain rfl : .direct 0 = l := Option.some.inj (Eq.trans (by decide +kernel) hbegins.link?_eq)
  exact ⟨h, by decide +kernel, hstays, hbegins, hinside⟩

end ReplicaRouter
