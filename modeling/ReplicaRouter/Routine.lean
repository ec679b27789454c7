import ReplicaRouter.Journal
/-
Work that may have to wait. A routine runs over a world that it shares with others. It runs alone
until it has to wait; there it leaves the world behind, together with the condition and the
deadline under which it goes on, and goes on in whatever the world has become.
Main definitions: `Routine`, its only way to wait `Routine.wait`, the limit `Routine.within`, and
`Routine.focus`, which runs a routine of a part of the world. Routines form a lawful monad.
-/
namespace ReplicaRouter

/-- How far a piece of work has come: to its end, or to a wait. A wait may end when the world meets
`ready` or when the deadline has come. -/
inductive Outcome (W α : Type) where
  | done (value : α) (world : W)
  | blocked (world : W) (ready : W → Bool) (deadline : Option Instant)
      (resume : Instant → W → Outcome W α)

/-- Work over a world, started at a point in time. -/
def Routine (W α : Type) : Type := Instant → W → Outcome W α

variable {W V α β γ : Type}

namespace Outcome

/-- Goes on with further work once this work is done; `now` is the time if it is done already. -/
def andThen (now : Instant) (next : α → Routine W β) : Outcome W α → Outcome W β
  | done a w => next a now w
  | blocked w ready deadline resume =>
    blocked w ready deadline fun now w => (resume now w).andThen now next

theorem andThen_done (now : Instant) (o : Outcome W α) :
    o.andThen now (fun a _ w => done a w) = o := by
  induction o generalizing now with
  | done a w => rfl
  | blocked w r d k ih => simp [andThen, ih]

theorem andThen_andThen (now : Instant) (o : Outcome W α) (f : α → Routine W β)
    (g : β → Routine W γ) :
    (o.andThen now f).andThen now g = o.andThen now fun a now w => (f a now w).andThen now g := by
  induction o generalizing now with
  | done a w => rfl
  | blocked w r d k ih => simp [andThen, ih]

/-- Gives up at a point in time. Work that can go on just then still goes on. -/
def within (limit : Instant) (now : Instant) : Outcome W α → Outcome W (Option α)
  | done a w => done (some a) w
  | blocked w ready deadline resume =>
    if limit ≤ now then done none w
    else blocked w ready (some (deadline.elim limit (min limit))) fun now w =>
      if ready w || deadline.any (· ≤ now) then (resume now w).within limit now else done none w

end Outcome

/-! ## Parts of a world -/

/-- A part of a larger world. -/
structure Part (W V : Type) where
  get : W → V
  /-- The world with another value for the part. -/
  set : V → W → W

/-- The world with the part changed. -/
def Part.modify (p : Part W V) (f : V → V) (w : W) : W := p.set (f (p.get w)) w

/-- Work on a part, as work on the whole world. -/
def Outcome.focus (p : Part W V) (w : W) : Outcome V α → Outcome W α
  | done a v => done a (p.set v w)
  | blocked v ready deadline resume =>
    blocked (p.set v w) (fun w => ready (p.get w)) deadline fun now w =>
      (resume now (p.get w)).focus p w

namespace Routine

/-! ## Sequencing -/

instance : Monad (Routine W) where
  pure a := fun _ w => .done a w
  bind x f := fun now w => (x now w).andThen now f

theorem map_id_eq (x : Routine W α) : id <$> x = x :=
  funext fun now => funext fun w => Outcome.andThen_done now (x now w)

theorem bind_bind (x : Routine W α) (f : α → Routine W β) (g : β → Routine W γ) :
    x >>= f >>= g = x >>= fun a => f a >>= g :=
  funext fun now => funext fun w => Outcome.andThen_andThen now (x now w) f g

instance : LawfulMonad (Routine W) :=
  LawfulMonad.mk' (Routine W) map_id_eq (fun _ _ => rfl) bind_bind

/-! ## The world and the clock -/

instance : MonadStateOf W (Routine W) where
  get := fun _ w => .done w w
  set w := fun _ _ => .done () w
  modifyGet f := fun _ w => .done (f w).1 (f w).2

def now : Routine W Instant := fun now w => .done now w

def note [Journaled W] (e : Entry) : Routine W Unit := modify (Journaled.note e)

def log [Journaled W] (level : LogLevel) (text : String) : Routine W Unit := note (.log level text)

/-! ## Waiting -/

/-- Waits for the world to meet a condition or for a deadline, whichever comes first, and tells
whether the condition is met. -/
def wait (ready : W → Bool) (deadline : Option Instant) : Routine W Bool := fun now w =>
  if ready w then .done true w
  else if deadline.any (· ≤ now) then .done false w
  else .blocked w ready deadline fun _ w => .done (ready w) w

/-- Waits for the world to meet a condition. -/
def waitFor (ready : W → Bool) : Routine W Unit := do
  discard (wait ready none)

def sleep (d : Duration) : Routine W Unit := do
  discard (wait (fun _ => false) (some ((← now) + d.nanos)))

/-- Gives the work so much time and gives it up when that is over. -/
def within (limit : Duration) (x : Routine W α) : Routine W (Option α) := fun now w =>
  (x now w).within (now + limit.nanos) now

/-- Runs work on a part of the world. -/
def focus (p : Part W V) (x : Routine V α) : Routine W α := fun now w =>
  (x now (p.get w)).focus p w

end Routine

end ReplicaRouter
