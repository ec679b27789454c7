import ReplicaRouter.Proofs.Conduct
import ReplicaRouter.Proofs.Reach
import ReplicaRouter.Proofs.Routing
/-
Tours of a logical connection: what the application calls for, and switches that are asked for by themselves, whatever
the mode is. Whatever state read/write splitting can come to is the end of a tour. The connection may be closed on the
way.
Main statements: along a tour the links that there are stay known (`Tour.known`) and in order (`Tour.ordered`), and what
was left behind stays tidy (`Tour.sound`).
-/
namespace ReplicaRouter

variable {D : Type} {others : World D → World D → Prop}

/-- What can be asked of read/write splitting: a call of the application, or a switch by itself. -/
inductive Demand (D : Type) where
  | call (k : Leg D)
  | switch (readOnly : Bool) (result : Except RouteError Unit)

/-- From one session to another by calls and switches one after the other, with others at work between them. -/
inductive Tour [Backend D] (others : World D → World D → Prop) (s : Session D) : List (Demand D) → Session D → Prop
  | start : Tour others s [] s
  | aside {ds : List (Demand D)} {u : Session D} {t : Instant} {w : World D} (tour : Tour others s ds u)
      (change : others u.world w) (passed : u.clock ≤ t) : Tour others s ds (u.later t w)
  | call {ds : List (Demand D)} {k : Leg D} (tour : Tour others s ds k.before) (taken : k.Taken others) :
      Tour others s (ds ++ [.call k]) k.after
  | switch {ds : List (Demand D)} {u : Session D} {v : Stand D} {readOnly : Bool} {r : Except RouteError Unit}
      (tour : Tour others s ds u) (switches : Split.Ends others (Split.switchTo readOnly) u.toStand r v) :
      Tour others s (ds ++ [.switch readOnly r]) { u with toStand := v }

/-- The call neither closes the connection nor runs into a failover. -/
structure Leg.IsCalm (k : Leg D) : Prop where
  stays : k.op ≠ .close
  calm : k.answer.isFailover = false

/-- What is called for neither closes the connection nor runs into a failover. -/
def Demand.IsCalm : Demand D → Prop
  | call k => k.IsCalm
  | switch .. => True

/-! ## What steps keep -/

namespace Stand

variable {s u s' : Stand D} {readOnly : Bool} {op : Operation}

theorem Turns.keepsOrdered {r : Except RouteError Unit} (h : s.Turns readOnly r s') (hs : s.seats.Ordered) :
    s'.seats.Ordered := by
  cases h with
  | fails switches leads =>
    obtain ⟨cur, hcur, hrem⟩ := switches.remembers
    rw [leads.seats]
    exact hrem.ordered hcur hs
  | succeeds switches releases leads _ =>
    rw [leads.seats]
    exact releases.ordered (switches.ordered hs).1

theorem Recovers.keepsOrdered {r : Except RouteError Unit} (h : s.Recovers r s') (hs : s.seats.Ordered) :
    s'.seats.Ordered := by
  cases h with
  | sound => exact hs
  | turns _ turns => exact turns.keepsOrdered hs

theorem Balances.keepsOrdered (h : s.Balances s') (hs : s.seats.Ordered) : s'.seats.Ordered := by
  cases h with
  | stays => exact hs
  | rotates _ _ rotates leads =>
    rw [leads.seats]
    cases rotates with
    | stays => exact hs
    | moves _ _ arrives =>
      refine (arrives.onReader rfl).ordered ?_
      rw [arrives.writer_eq]
      exact hs.writerRole

theorem Refuses.keepsOrdered {e : RouteError} (h : s.Refuses op e s') (hs : s.seats.Ordered) : s'.seats.Ordered := by
  cases h with
  | mode turns => exact turns.keepsOrdered hs
  | plain _ recovers => exact recovers.keepsOrdered hs

theorem Prepares.keepsOrdered (h : s.Prepares op s') (hs : s.seats.Ordered) : s'.seats.Ordered := by
  cases h with
  | mode turns => exact turns.keepsOrdered hs
  | close => exact hs
  | plain _ recovers balances => exact balances.keepsOrdered (recovers.keepsOrdered hs)

end Stand

section Legs

variable [Backend D] [Bystanders others]

namespace Leg

variable {k : Leg D}

theorem Taken.keepsKnown (h : k.Taken others) (hs : k.before.toStand.Known) : k.after.toStand.Known := by
  rcases h.course with ⟨_, stays, _, _⟩ | ⟨_, refuses, _, _⟩ | @⟨s₁, s₂, ans, passes⟩
  · rw [stays]; exact hs
  · exact refuses.renews.keepsKnown hs
  · by_cases hop : k.op = .close
    · intro l hl
      rw [passes.closes hop] at hl
      rcases hl with (⟨host, hc, -⟩ | ⟨_, hk⟩ | ⟨_, hk⟩) | hst
      · have hlink : s₁.service.link? = some l := congrArg (Option.map Prod.fst) hc
        have hs₁ := passes.prepares.renews.keepsKnown hs
        exact (hs₁ l (Stand.reaches_or_stale hlink)).mono passes.grows_after
      · cases hk
      · cases hk
      · cases hst
    · exact (passes.renews hop).keepsKnown hs

theorem Taken.keepsOrdered (h : k.Taken others) (hs : k.before.seats.Ordered) : k.after.seats.Ordered := by
  rcases h.course with ⟨_, stays, _, _⟩ | ⟨_, refuses, _, _⟩ | ⟨passes⟩
  · rw [stays]; exact hs
  · exact refuses.keepsOrdered hs
  · by_cases hop : k.op = .close
    · rw [passes.closes hop]
      exact Seats.ordered_of_none rfl rfl
    · rcases passes.leaves hop with ⟨-, hseats⟩ | ⟨-, hseats, -⟩
      · rw [hseats]; exact passes.prepares.keepsOrdered hs
      · rw [hseats]; exact Seats.ordered_of_none rfl rfl

omit [Bystanders others] in
theorem Passes.isFailover_eq_false {s₁ s₂ : Stand D} {ans : Answer} (h : k.Passes others s₁ ans s₂) (hk : k.IsCalm) :
    ans.isFailover = false := by
  cases ans with
  | ok _ => rfl
  | error e =>
    have hcalm := hk.calm
    rw [h.answer, Operation.present_error] at hcalm
    exact hcalm

/-- An operation that is calm leaves the links where they are when it runs. -/
theorem Passes.seats_eq_of_calm {s₁ s₂ : Stand D} {ans : Answer} (h : k.Passes others s₁ ans s₂) (hk : k.IsCalm) :
    k.after.seats = s₁.seats := by
  rcases h.leaves hk.stays with ⟨-, hseats⟩ | ⟨hf, -⟩
  · exact hseats
  · rw [h.isFailover_eq_false hk] at hf; cases hf

/-- Unless it closes the connection, a call brings only new links within reach. -/
theorem Taken.renews_of_ne_close (h : k.Taken others) (hop : k.op ≠ .close) :
    k.before.toStand.Renews k.after.toStand := by
  rcases h.course with ⟨_, stays, _, _⟩ | ⟨_, refuses, _, _⟩ | ⟨passes⟩
  · rw [stays]; exact .refl _
  · exact refuses.renews
  · exact passes.renews hop

end Leg

end Legs

/-! ## Tours -/

section Tours

variable [Backend D]

/-- A run is a tour. -/
theorem Run.tour {s s' : Session D} {ks : List (Leg D)} (h : Run others s ks s') :
    Tour others s (ks.map Demand.call) s' := by
  induction h with
  | start => exact .start
  | aside _ change passed ih => exact .aside ih change passed
  | call _ taken ih =>
    rw [List.map_append]
    exact .call ih taken

variable {s u s' : Session D} {ds es : List (Demand D)}

theorem Tour.trans (h1 : Tour others s ds u) (h2 : Tour others u es s') : Tour others s (ds ++ es) s' := by
  induction h2 with
  | start => rw [List.append_nil]; exact h1
  | aside _ change passed ih => exact .aside ih change passed
  | call _ taken ih => rw [← List.append_assoc]; exact .call ih taken
  | switch _ switches ih => rw [← List.append_assoc]; exact .switch ih switches

variable [Bystanders others]

/-- A tour keeps what every call to the driver keeps. -/
theorem World.Patient.keeps_tour {R : World D → World D → Prop} (hR : World.Patient others R) [Frame others R]
    (h : Tour others s ds s') : R s.world s'.world := by
  induction h with
  | start => exact Frame.refl others _
  | aside _ change _ ih => exact Frame.trans others ih (Frame.bears change)
  | call _ taken ih => exact Frame.trans others ih (hR.keeps_taken taken)
  | switch _ switches ih => exact Frame.trans others ih (hR.keeps_switchTo _ switches)

namespace Tour

theorem grows (h : Tour others s ds s') : s.world.Grows s'.world := by
  induction h with
  | start => exact .refl _
  | aside _ change _ ih => exact ih.trans (Bystanders.aside change).upkeep.grows
  | call _ taken ih => exact ih.trans taken.grows
  | switch _ switches ih => exact ih.trans (Split.ends_switchTo switches).renews.grows

theorem known (ho : s.Opens others) (h : Tour others s ds s') : s'.toStand.Known := by
  induction h with
  | start => exact ho.sound.known
  | aside _ change _ ih => exact fun l hl => (ih l hl).mono (Bystanders.aside change).upkeep.grows
  | call _ taken ih => exact taken.keepsKnown ih
  | switch _ switches ih => exact (Split.ends_switchTo switches).renews.keepsKnown ih

theorem ordered (ho : s.Opens others) (h : Tour others s ds s') : s'.seats.Ordered := by
  induction h with
  | start =>
    obtain ⟨l, hseats, -⟩ := ho.fresh
    rw [hseats]
    exact Seats.ordered_of_none rfl rfl
  | aside _ _ _ ih => exact ih
  | call _ taken ih => exact taken.keepsOrdered ih
  | switch _ switches ih => exact (Split.ends_switchTo switches).keepsOrdered ih

/-- Links stay known and tidy along a tour, if the driver opens no connection twice. -/
theorem sound (h : Tour others s ds s') (hs : s.toStand.Sound) (fresh : s'.world.opened.Nodup) : s'.toStand.Sound := by
  induction h with
  | start => exact hs
  | aside _ change _ ih =>
    have hg := (Bystanders.aside change).upkeep.grows
    have hu := ih (hg.nodup fresh)
    exact ⟨fun l hl => (hu.known l hl).mono hg, hu.tidy⟩
  | call _ taken ih => exact taken.sound (ih (taken.grows.nodup fresh)) fresh
  | switch _ switches ih =>
    have hturns := Split.ends_switchTo switches
    exact hturns.sound (ih (hturns.renews.grows.nodup fresh)) fresh

/-- As long as the connection is not closed, only new links come within reach. -/
theorem renews (h : Tour others s ds s') (calm : ∀ d ∈ ds, d.IsCalm) : s.toStand.Renews s'.toStand := by
  induction h with
  | start => exact .refl _
  | aside _ change _ ih => exact (ih calm).trans (.of_seats_eq (Bystanders.aside change).upkeep.grows rfl rfl)
  | @call ds k _ taken ih =>
    have hk : k.IsCalm := calm _ (List.mem_append_right _ (List.mem_singleton_self _))
    exact (ih fun d hd => calm d (List.mem_append_left _ hd)).trans (taken.renews_of_ne_close hk.stays)
  | switch _ switches ih =>
    exact (ih fun d hd => calm d (List.mem_append_left _ hd)).trans (Split.ends_switchTo switches).renews

end Tour

end Tours

end ReplicaRouter
