import ReplicaRouter.Chain
/-
How a request passes a chain of plugins. The way in and the way out are told one after the other: plugins are entered in
order until one answers, and those that sent the request on wait and are left from the innermost to the outermost.
Main statement: a chain does just that, for both kinds of requests, and watching who is entered and left shows it
(`Chain.runs_as_journey`).
-/
namespace ReplicaRouter

variable {σ Req Ans : Type} {M : Type → Type}

/-! ## The way in and the way out -/

/-- A plugin that has sent a request on: its state, and what it makes of the answer that comes back. -/
structure Awaiting (σ : Type) (M : Type → Type) (Ans : Type) where
  state : σ
  leave : Ans → StateT σ M Ans

/-- How far a request comes into a chain. The plugins that sent it on wait, the innermost first. -/
inductive WayIn (chain : Chain σ M) (Req Ans : Type) where
  /-- Every plugin sent the request on, the last of them this one. -/
  | toEnd (waiting : List (Awaiting σ M Ans)) (all : waiting.length = chain.length) (req : Req)
  /-- The plugin behind those that sent it on answered, and has a new state. -/
  | toPlugin (waiting : List (Awaiting σ M Ans)) (inside : waiting.length < chain.length) (state : σ) (ans : Ans)

namespace WayIn

variable {chain : Chain σ M}

def waiting : WayIn chain Req Ans → List (Awaiting σ M Ans)
  | toEnd waiting _ _ => waiting
  | toPlugin waiting _ _ _ => waiting

/-- Where the request turns round: the answer, and the states of the plugins that have been left by then. -/
def turn [Monad M] (last : Req → M Ans) : WayIn chain Req Ans → M (Ans × List σ)
  | toEnd _ _ req => do return (← last req, [])
  | toPlugin _ _ state ans => return (ans, [state])

end WayIn

/-- The way out: the waiting plugins are left one after the other, and their new states kept. -/
def Awaiting.leaveAll [Monad M] : List (Awaiting σ M Ans) → Ans × List σ → M (Ans × List σ)
  | [], back => pure back
  | inner :: waiting, (ans, states) => do
    let (ans, s) ← (inner.leave ans).run inner.state
    leaveAll waiting (ans, s :: states)

/-- What happens to the plugins, told by their places, and at the end of the chain. -/
inductive Visit where
  | enter (place : Nat)
  | serve
  | leave (place : Nat)
  deriving DecidableEq, Repr

namespace Visit

/-- The first `n` plugins are entered in order. -/
def entering (n : Nat) : List Visit := (List.range n).map enter

/-- The first `n` plugins are left in the reverse order. -/
def leaving (n : Nat) : List Visit := (List.range n).reverse.map leave

@[simp] theorem entering_succ (n : Nat) : entering (n + 1) = entering n ++ [enter n] := by
  simp [entering, List.range_succ]

@[simp] theorem leaving_succ (n : Nat) : leaving (n + 1) = leave n :: leaving n := by
  simp [leaving, List.range_succ]

end Visit

/-- All that happens to the plugins when a request has come this far. -/
def WayIn.visits {chain : Chain σ M} : WayIn chain Req Ans → List Visit
  | toEnd _ _ _ => Visit.entering chain.length ++ .serve :: Visit.leaving chain.length
  | toPlugin waiting _ _ _ => Visit.entering (waiting.length + 1) ++ Visit.leaving (waiting.length + 1)

namespace Chain

/-- The chain with new states for its first plugins. The others keep theirs. -/
def withStates : Chain σ M → List σ → Chain σ M
  | [], _ => []
  | chain, [] => chain
  | (p, _) :: inner, s :: states => (p, s) :: withStates inner states

@[simp] theorem withStates_nil (chain : Chain σ M) : chain.withStates [] = chain := by
  cases chain <;> rfl

variable [Monad M]

/-- The request enters the plugins in order until one answers it; `waiting` are those that sent it on before. -/
def enter (chain : Chain σ M) (hook : Plugin σ M → Req → StateT σ M (Handling (StateT σ M) Req Ans)) :
    (rest : Chain σ M) → (waiting : List (Awaiting σ M Ans)) → waiting.length + rest.length = chain.length →
      Req → M (WayIn chain Req Ans)
  | [], waiting, h, req => return .toEnd waiting h req
  | (p, s) :: rest, waiting, h, req => do
    let (handling, s) ← (hook p req).run s
    match handling with
    | .answer ans => return .toPlugin waiting (by simp at h; omega) s ans
    | .forward req leave => enter chain hook rest (⟨s, leave⟩ :: waiting) (by simp at h ⊢; omega) req

/-- A request's way through a chain: in, round and out. It ends with the answer, the states of the plugins that were
entered, and what happened on the way. -/
def journey (hook : Plugin σ M → Req → StateT σ M (Handling (StateT σ M) Req Ans)) (last : Req → M Ans)
    (chain : Chain σ M) (req : Req) : M (Ans × List σ × List Visit) := do
  let way ← enter chain hook chain [] (Nat.zero_add _) req
  let back ← way.turn last
  let (ans, states) ← Awaiting.leaveAll way.waiting back
  return (ans, states, way.visits)

end Chain

/-! ## Watching -/

section Watching

variable [Monad M]

/-- Work that also tells what happened to the plugins. -/
abbrev Watched (M : Type → Type) : Type → Type := StateT (List Visit) M

def Visit.tell (v : Visit) : Watched M Unit := modify (· ++ [v])

/-- What a plugin makes of the answer that comes back, with its being left told. -/
def watchLeave (place : Nat) (leave : Ans → StateT σ M Ans) (ans : Ans) : StateT σ (Watched M) Ans := fun s => do
  let back ← liftM (m := M) ((leave ans).run s)
  (Visit.leave place).tell
  return back

/-- What a plugin does with a request, with its being entered and left told. -/
def watchHook (place : Nat) (x : StateT σ M (Handling (StateT σ M) Req Ans)) :
    StateT σ (Watched M) (Handling (StateT σ (Watched M)) Req Ans) := fun s => do
  (Visit.enter place).tell
  let (handling, s) ← liftM (m := M) (x.run s)
  match handling with
  | .answer ans => do
    (Visit.leave place).tell
    return (.answer ans, s)
  | .forward req leave => return (.forward req (watchLeave place leave), s)

/-- The plugin at a place, watched. -/
def Plugin.watched (place : Nat) (p : Plugin σ M) : Plugin σ (Watched M) where
  name := p.name
  onConnect req := watchHook place (p.onConnect req)
  onExecute op := watchHook place (p.onExecute op)

/-- What stands at the end of a chain, watched. -/
def watchLast (last : Req → M Ans) (req : Req) : Watched M Ans := do
  Visit.serve.tell
  last req

def Chain.watchedFrom : Nat → Chain σ M → Chain σ (Watched M)
  | _, [] => []
  | place, (p, s) :: inner => (p.watched place, s) :: watchedFrom (place + 1) inner

/-- The chain with each of its plugins watched. -/
def Chain.watched (chain : Chain σ M) : Chain σ (Watched M) := chain.watchedFrom 0

end Watching

/-! ## One after the other -/

namespace Chain

variable [Monad M] [LawfulMonad M] {hook : Plugin σ M → Req → StateT σ M (Handling (StateT σ M) Req Ans)}
  {last : Req → M Ans}

/-- The chain as it is defined, with the states of the plugins that were entered only. -/
def statesThrough (hook : Plugin σ M → Req → StateT σ M (Handling (StateT σ M) Req Ans)) (last : Req → M Ans) :
    Chain σ M → Req → M (Ans × List σ)
  | [], req => do return (← last req, [])
  | (p, s) :: inner, req => do
    let (handling, s) ← (hook p req).run s
    match handling with
    | .answer ans => return (ans, [s])
    | .forward req leave =>
      let (ans, states) ← statesThrough hook last inner req
      let (ans, s) ← (leave ans).run s
      return (ans, s :: states)

theorem through_eq_statesThrough (chain : Chain σ M) (req : Req) :
    chain.through hook last req = (fun r => (r.1, chain.withStates r.2)) <$> statesThrough hook last chain req := by
  induction chain generalizing req with
  | nil => simp [through, statesThrough, withStates]
  | cons e inner ih =>
    obtain ⟨p, s⟩ := e
    simp only [through, statesThrough, map_bind]
    refine bind_congr fun ⟨handling, s⟩ => ?_
    cases handling with
    | answer ans => simp [withStates]
    | forward req leave => simp [ih, withStates]

/-- The induction is on the plugins that are still to come; those that wait are on the way out already. -/
theorem statesThrough_bind_leaveAll (chain rest : Chain σ M) (waiting : List (Awaiting σ M Ans))
    (h : waiting.length + rest.length = chain.length) (req : Req) :
    statesThrough hook last rest req >>= Awaiting.leaveAll waiting = (do
      let way ← enter chain hook rest waiting h req
      let back ← way.turn last
      Awaiting.leaveAll way.waiting back) := by
  induction rest generalizing waiting req with
  | nil => simp [statesThrough, enter, WayIn.turn, WayIn.waiting]
  | cons e rest ih =>
    obtain ⟨p, s⟩ := e
    simp only [statesThrough, enter, bind_assoc]
    refine bind_congr fun ⟨handling, s⟩ => ?_
    cases handling with
    | answer ans => simp [WayIn.turn, WayIn.waiting]
    | forward req leave =>
      simp only [← ih]
      simp [Awaiting.leaveAll]

theorem through_eq_journey (chain : Chain σ M) (req : Req) :
    chain.through hook last req = (fun r => (r.1, chain.withStates r.2.1)) <$> chain.journey hook last req := by
  have h : statesThrough hook last chain req >>= Awaiting.leaveAll [] = _ :=
    statesThrough_bind_leaveAll chain chain [] (Nat.zero_add _) req
  simp only [Awaiting.leaveAll, bind_pure] at h
  simp [through_eq_statesThrough, h, journey]

end Chain

/-! ## What is seen -/

section Seen

variable [Monad M] [LawfulMonad M]

omit [LawfulMonad M] in
theorem run_tell (v : Visit) (seen : List Visit) : v.tell.run seen = (pure ((), seen ++ [v]) : M _) := rfl

theorem run_watchLeave (place : Nat) (leave : Ans → StateT σ M Ans) (ans : Ans) (s : σ) (seen : List Visit) :
    ((watchLeave place leave ans).run s).run seen =
      (fun back => (back, seen ++ [.leave place])) <$> (leave ans).run s := by
  rw [show (watchLeave place leave ans).run s = (do
    let back ← liftM (m := M) ((leave ans).run s)
    (Visit.leave place).tell
    return back) from rfl]
  simp [run_tell]

/-- A watched plugin is entered, and left at once if it answers. -/
theorem run_watchHook (place : Nat) (x : StateT σ M (Handling (StateT σ M) Req Ans)) (s : σ) (seen : List Visit) :
    ((watchHook place x).run s).run seen = (do
      let (handling, s) ← x.run s
      match handling with
      | .answer ans => return ((.answer ans, s), seen ++ [.enter place, .leave place])
      | .forward req leave => return ((.forward req (watchLeave place leave), s), seen ++ [.enter place])) := by
  rw [show (watchHook place x).run s = (do
    (Visit.enter place).tell
    let (handling, s) ← liftM (m := M) (x.run s)
    match handling with
    | .answer ans => do
      (Visit.leave place).tell
      return (.answer ans, s)
    | .forward req leave => return (.forward req (watchLeave place leave), s)) from rfl]
  simp only [StateT.run_bind, run_tell, pure_bind, StateT.run_monadLift, monadLift_self, bind_assoc]
  refine bind_congr fun ⟨handling, s⟩ => ?_
  cases handling <;> simp [run_tell]

end Seen

namespace Awaiting

/-- The waiting plugins, watched. The place of each is the number of those that wait behind it. -/
def watchAll [Monad M] : List (Awaiting σ M Ans) → List (Awaiting σ (Watched M) Ans)
  | [] => []
  | inner :: waiting => ⟨inner.state, watchLeave waiting.length inner.leave⟩ :: watchAll waiting

variable [Monad M]

@[simp] theorem length_watchAll (waiting : List (Awaiting σ M Ans)) : (watchAll waiting).length = waiting.length := by
  induction waiting with
  | nil => rfl
  | cons inner waiting ih => simp [watchAll, ih]

variable [LawfulMonad M]

theorem run_leaveAll (waiting : List (Awaiting σ M Ans)) (back : Ans × List σ) (seen : List Visit) :
    (leaveAll (watchAll waiting) back).run seen =
      (fun back => (back, seen ++ Visit.leaving waiting.length)) <$> leaveAll waiting back := by
  induction waiting generalizing back seen with
  | nil => simp [watchAll, leaveAll, Visit.leaving]
  | cons inner waiting ih =>
    simp only [watchAll, leaveAll, StateT.run_bind, run_watchLeave, bind_map_left, map_bind]
    refine bind_congr fun ⟨ans, s⟩ => ?_
    simp [ih]

end Awaiting

@[simp] theorem Chain.length_watchedFrom [Monad M] (chain : Chain σ M) (place : Nat) :
    (chain.watchedFrom place).length = chain.length := by
  induction chain generalizing place with
  | nil => rfl
  | cons e inner ih => simp [Chain.watchedFrom, ih]

namespace WayIn

variable {chain : Chain σ M}

/-- What happens to the plugins on the way in. -/
def visitsIn : WayIn chain Req Ans → List Visit
  | toEnd waiting _ _ => Visit.entering waiting.length
  | toPlugin waiting _ _ _ => Visit.entering waiting.length ++ [.enter waiting.length, .leave waiting.length]

/-- What happens at the end of the chain, if the request comes there. -/
def visitsRound : WayIn chain Req Ans → List Visit
  | toEnd _ _ _ => [.serve]
  | toPlugin _ _ _ _ => []

theorem visits_eq (way : WayIn chain Req Ans) :
    way.visits = way.visitsIn ++ way.visitsRound ++ Visit.leaving way.waiting.length := by
  cases way with
  | toEnd waiting all req => simp [visits, visitsIn, visitsRound, WayIn.waiting, all]
  | toPlugin waiting inside state ans => simp [visits, visitsIn, visitsRound, WayIn.waiting]

variable [Monad M]

/-- The way in of the watched chain. -/
def watched : WayIn chain Req Ans → WayIn chain.watched Req Ans
  | toEnd waiting all req => toEnd (Awaiting.watchAll waiting) (by simpa [Chain.watched] using all) req
  | toPlugin waiting inside state ans =>
    toPlugin (Awaiting.watchAll waiting) (by simpa [Chain.watched] using inside) state ans

theorem waiting_watched (way : WayIn chain Req Ans) : way.watched.waiting = Awaiting.watchAll way.waiting := by
  cases way <;> rfl

theorem run_turn [LawfulMonad M] {last : Req → M Ans} (way : WayIn chain Req Ans) (seen : List Visit) :
    (way.watched.turn (watchLast last)).run seen = (fun back => (back, seen ++ way.visitsRound)) <$> way.turn last := by
  cases way with
  | toEnd waiting all req => simp [watched, turn, watchLast, run_tell, visitsRound]
  | toPlugin waiting inside state ans => simp [watched, turn, visitsRound]

end WayIn

namespace Chain

variable [Monad M] [LawfulMonad M] {hook : Plugin σ M → Req → StateT σ M (Handling (StateT σ M) Req Ans)}
  {hook' : Plugin σ (Watched M) → Req → StateT σ (Watched M) (Handling (StateT σ (Watched M)) Req Ans)}
  {last : Req → M Ans}

/-- Along the way in, what has been seen is that the plugins that wait were entered in order. -/
theorem run_enter (hhook : ∀ place p req, hook' (p.watched place) req = watchHook place (hook p req))
    {chain : Chain σ M} (rest : Chain σ M) (waiting : List (Awaiting σ M Ans))
    (h : waiting.length + rest.length = chain.length)
    (h' : (Awaiting.watchAll waiting).length + (rest.watchedFrom waiting.length).length = chain.watched.length)
    (req : Req) :
    (enter chain.watched hook' (rest.watchedFrom waiting.length) (Awaiting.watchAll waiting) h' req).run
        (Visit.entering waiting.length) =
      (fun way => (way.watched, way.visitsIn)) <$> enter chain hook rest waiting h req := by
  induction rest generalizing waiting req with
  | nil => simp [enter, watchedFrom, WayIn.watched, WayIn.visitsIn]
  | cons e rest ih =>
    obtain ⟨p, s⟩ := e
    simp only [enter, watchedFrom, hhook, StateT.run_bind, run_watchHook, map_bind, bind_assoc]
    refine bind_congr fun ⟨handling, s⟩ => ?_
    cases handling with
    | answer ans => simp [WayIn.watched, WayIn.visitsIn]
    | forward req leave =>
      simp only [pure_bind]
      rw [← Visit.entering_succ]
      exact ih (⟨s, leave⟩ :: waiting) _ _ req

theorem run_through (hhook : ∀ place p req, hook' (p.watched place) req = watchHook place (hook p req))
    (chain : Chain σ M) (req : Req) :
    (chain.watched.through hook' (watchLast last) req).run [] =
      (fun r => ((r.1, chain.watched.withStates r.2.1), r.2.2)) <$> chain.journey hook last req := by
  have hin : (enter chain.watched hook' chain.watched [] (Nat.zero_add _) req).run [] =
      (fun way => (way.watched, way.visitsIn)) <$> enter chain hook chain [] (Nat.zero_add _) req :=
    run_enter hhook chain [] _ (Nat.zero_add _) req
  rw [through_eq_journey]
  simp only [journey, StateT.run_bind, map_bind, map_pure, hin, bind_map_left, WayIn.run_turn,
    WayIn.waiting_watched, Awaiting.run_leaveAll]
  simp [WayIn.visits_eq]

/-- A request passes a chain the way its journey tells. The plugins are entered in order up to the first one that
answers, or all of them and then the end of the chain once, with the request that the last plugin sent on; those that
were entered are left in the reverse order, each making its answer of the one from further in, and the others keep their
states. Whoever watches the plugins sees the visits of the journey and nothing else. -/
theorem runs_as_journey (chain : Chain σ M) :
    (∀ last req,
      chain.connect last req =
          (fun r => (r.1, chain.withStates r.2.1)) <$> chain.journey Plugin.onConnect last req ∧
        (chain.watched.connect (watchLast last) req).run [] =
          (fun r => ((r.1, chain.watched.withStates r.2.1), r.2.2)) <$> chain.journey Plugin.onConnect last req) ∧
    ∀ last op,
      chain.execute last op =
          (fun r => (r.1, chain.withStates r.2.1)) <$> chain.journey Plugin.onExecute last op ∧
        (chain.watched.execute (watchLast last) op).run [] =
          (fun r => ((r.1, chain.watched.withStates r.2.1), r.2.2)) <$> chain.journey Plugin.onExecute last op :=
  ⟨fun _ req => ⟨through_eq_journey chain req, run_through (fun _ _ _ => rfl) chain req⟩,
    fun _ op => ⟨through_eq_journey chain op, run_through (fun _ _ _ => rfl) chain op⟩⟩

end Chain

/-! ## A guarded chain -/

namespace Chain.Guarded

/-- Counts in its state how many operations came back, and doubles their counts. -/
def doubler : Plugin Nat (StateM Nat) where
  name := "doubler"
  onConnect req := return .pass req
  onExecute op := return .forward op fun ans => do
    modify (· + 1)
    return ans.map fun
      | .count n => .count (2 * n)
      | reply => reply

/-- Answers commits itself. -/
def guard : Plugin Nat (StateM Nat) where
  name := "guard"
  onConnect req := return .pass req
  onExecute op :=
    if op = .commit then return .answer (.error (.internal "commit refused")) else return .pass op

/-- Two plugins that double counts, with a guard between them. -/
def chain : Chain Nat (StateM Nat) := [(doubler, 5), (guard, 0), (doubler, 7)]

/-- The end of the chain counts its calls. -/
def last (_ : Operation) : StateM Nat (Except RouteError Reply) := do
  modify (· + 1)
  return .ok (.count 3)

end Chain.Guarded

/-- A commit is answered in the middle of the chain, an update passes all of it. -/
theorem Chain.runs_as_journey_of_guarded :
    ((Guarded.chain.watched.execute (watchLast Guarded.last) .commit).run []).run 0 =
        (((Except.error (.internal "commit refused"), Guarded.chain.watched.withStates [6, 0]),
          [.enter 0, .enter 1, .leave 1, .leave 0]), 0) ∧
      ((Guarded.chain.watched.execute (watchLast Guarded.last) (.update "u")).run []).run 0 =
        (((Except.ok (.count 12), Guarded.chain.watched.withStates [6, 0, 8]),
          [.enter 0, .enter 1, .enter 2, .serve, .leave 2, .leave 1, .leave 0]), 1) := by
  have h := (Chain.runs_as_journey Guarded.chain).2 Guarded.last
  rw [(h .commit).2, (h (.update "u")).2]
  exact ⟨rfl, rfl⟩

end ReplicaRouter
