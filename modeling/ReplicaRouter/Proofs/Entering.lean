import ReplicaRouter.Proofs.Turning
/-
The courses that an operation can take through read/write splitting: it is refused or sent on, once the current link was
made to match the mode and the load was balanced; and its answer is seen on its way back.
Main statements: `Split.enters_onExecute` and `Split.returns_leaveFor`.
-/
namespace ReplicaRouter

variable {D : Type} {others : World D → World D → Prop}

/-- Whether the operation leaves the mode as it is and does not close. -/
def Operation.isPlain : Operation → Bool
  | setReadOnly _ => false
  | close => false
  | _ => true

/-- What an operation comes to. -/
abbrev Answer : Type := Except RouteError Reply

/-- Whether the answer tells of a failover. -/
def Answer.isFailover : Answer → Bool
  | .ok _ => false
  | .error e => e.isFailover

namespace Split

variable [Backend D]

/-- What becomes of an answer on its way back. -/
def leaveFor : Operation → Except RouteError Reply → Split D (Except RouteError Reply)
  | .close => leaveClose
  | op => leaveOperation op

theorem leaveFor_eq {op : Operation} (hop : op ≠ .close) :
    (leaveFor op : Answer → Split D Answer) = leaveOperation op := by
  cases op with
  | close => exact absurd rfl hop
  | _ => rfl

/-- Operations that leave the mode as it is and do not close are all entered alike. -/
theorem onExecute_of_isPlain {op : Operation} (hop : op.isPlain = true) :
    plugin.onExecute op = enterOperation (D := D) op := by
  cases op <;> first | rfl | cases hop

end Split

/-! ## Courses -/

namespace Stand

/-- The stand in a mode. -/
def withMode (s : Stand D) (readOnly : Bool) : Stand D := { s with splitter := { s.splitter with readOnly } }

/-- The operation is one that the load is balanced for: the mode is to read, and no transaction is open. -/
structure Balanceable (s : Stand D) (op : Operation) : Prop where
  balances : s.splitter.loadBalance = true
  mode : s.splitter.readOnly = true
  statement : op.isExecute = true
  free : s.service.inTransaction = false

variable [Backend D]

/-- How a current link that a failover left behind is switched away from. -/
inductive Mends (others : World D → World D → Prop) (s : Stand D) : Except RouteError Unit → Stand D → Prop
  | sound (sound : ¬ s.seats.IsLost) : Mends others s (.ok ()) s
  | switches {r : Except RouteError Unit} {u s' : Stand D} (lost : s.seats.IsLost) (noted : s.Noted u)
      (switches : Split.Ends others (Split.switchTo s.splitter.readOnly) u r s') : Mends others s r s'

/-- How the load is balanced before an operation. -/
inductive Weighs (others : World D → World D → Prop) (s : Stand D) (op : Operation) : Stand D → Prop
  | stays (unfit : ¬ s.Balanceable op) : Weighs others s op s
  | rotates {s' : Stand D} (due : s.Balanceable op) (rotates : Split.Ends others Split.rotateReader s () s') :
      Weighs others s op s'

/-- How an operation enters: one that sets the mode needs a switch to it, and any other but a close needs a current link
that no failover has left behind. It is refused if it does not get that, and else sent on as it is. -/
inductive Enters (others : World D → World D → Prop) (s : Stand D) :
    Operation → Split.OperationHandling D → Stand D → Prop
  | unswitched {readOnly : Bool} {e : RouteError} {s' : Stand D}
      (switches : Split.Ends others (Split.switchTo readOnly) s (.error e) s') :
      Enters others s (.setReadOnly readOnly) (.answer (.error e)) s'
  | switched {readOnly : Bool} {u : Stand D} (switches : Split.Ends others (Split.switchTo readOnly) s (.ok ()) u) :
      Enters others s (.setReadOnly readOnly)
        (.forward (.setReadOnly readOnly) (Split.leaveFor (.setReadOnly readOnly))) (u.withMode readOnly)
  | closes : Enters others s .close (.forward .close (Split.leaveFor .close)) s
  | unmended {op : Operation} {e : RouteError} {s' : Stand D} (plain : op.isPlain = true)
      (mends : s.Mends others (.error e) s') : Enters others s op (.answer (.error e)) s'
  | mended {op : Operation} {u s' : Stand D} (plain : op.isPlain = true) (mends : s.Mends others (.ok ()) u)
      (weighs : u.Weighs others op s') : Enters others s op (.forward op (Split.leaveFor op)) s'

/-- How an answer passes on its way back: where it tells of a failover the kept links are given up, and the current one
is left behind; where it is the one to a close nothing is kept either. -/
inductive Returns (others : World D → World D → Prop) (s : Stand D) : Operation → Answer → Stand D → Prop
  | passes {op : Operation} {ans : Answer} (open_ : op ≠ .close) (calm : ans.isFailover = false) :
      Returns others s op ans s
  | breaks {op : Operation} {ans : Answer} {u v s' : Stand D} (open_ : op ≠ .close) (failover : ans.isFailover = true)
      (noted : s.Noted u) (discards : Split.Ends others Split.discardKept u () v)
      (leaves : Split.Ends others (Split.setStale v.service.link?) v () s') : Returns others s op ans s'
  | closes {ans : Answer} {u v : Stand D} (discards : Split.Ends others Split.discardKept s () u)
      (clears : Split.Ends others (Split.setStale none) u () v) : Returns others s .close ans (v.withMode false)

end Stand

/-! ## Programs follow them -/

namespace Split

variable [Backend D] {s s' : Stand D} {op : Operation}

theorem mends_recover {r : Except RouteError Unit} (h : Split.Ends others recover s r s') : s.Mends others r s' := by
  replace h := after_service (after_get h)
  split at h
  · next hlost =>
    obtain ⟨_, u, hlog, h⟩ := ends_bind.1 h
    exact .switches (isCurrentStale_iff.1 hlost) (noted_log hlog) h
  · next hsound =>
    obtain ⟨rfl, rfl⟩ := ends_pure.1 h
    exact .sound fun hlost => hsound (isCurrentStale_iff.2 hlost)

theorem weighs_balance {a : Unit} (h : Split.Ends others (balance op) s a s') : s.Weighs others op s' := by
  replace h := after_service (after_get h)
  split at h
  · next hdue =>
    simp only [Bool.and_eq_true, Bool.not_eq_true'] at hdue
    obtain ⟨⟨⟨balances, mode⟩, statement⟩, free⟩ := hdue
    exact .rotates ⟨balances, mode, statement, free⟩ h
  · next hdue =>
    obtain ⟨-, rfl⟩ := ends_pure.1 h
    refine .stays fun ⟨balances, mode, statement, free⟩ => hdue ?_
    rw [balances, mode, statement, free]
    rfl

theorem enters_onExecute {hd : OperationHandling D} (h : Split.Ends others (plugin.onExecute op) s hd s') :
    s.Enters others op hd s' := by
  -- plain operations share one entry: links are mended, then weighed for balance
  cases hop : op.isPlain with
  | true =>
    rw [onExecute_of_isPlain hop] at h
    obtain ⟨r, u, hrecover, h⟩ := ends_bind.1 h
    have hmends := mends_recover hrecover
    cases r with
    | error e =>
      obtain ⟨rfl, rfl⟩ := ends_pure.1 h
      exact .unmended hop hmends
    | ok _ =>
      obtain ⟨_, v, hbalance, h⟩ := ends_bind.1 h
      obtain ⟨rfl, rfl⟩ := ends_pure.1 h
      have hclose : op ≠ .close := by rintro rfl; cases hop
      rw [← leaveFor_eq hclose]
      exact .mended hop hmends (weighs_balance hbalance)
  | false =>
    cases op with
    | setReadOnly readOnly =>
      obtain ⟨r, u, hswitch, h⟩ := ends_bind.1 h
      cases r with
      | error e =>
        obtain ⟨rfl, rfl⟩ := ends_pure.1 h
        exact .unswitched hswitch
      | ok _ =>
        obtain ⟨_, v, hset, h⟩ := ends_bind.1 h
        obtain rfl := ends_modify.1 hset
        obtain ⟨rfl, rfl⟩ := ends_pure.1 h
        exact .switched hswitch
    | close =>
      obtain ⟨rfl, rfl⟩ := ends_pure.1 h
      exact .closes
    | _ => cases hop

/-- An answer comes back as it is. -/
theorem returns_leaveFor {ans r : Answer} (h : Split.Ends others (leaveFor op ans) s r s') :
    r = ans ∧ s.Returns others op ans s' := by
  by_cases hop : op = .close
  · subst hop
    obtain ⟨_, u, hdiscard, h⟩ := ends_bind.1 h
    obtain ⟨_, v, hclear, h⟩ := ends_bind.1 h
    obtain ⟨_, t, hset, h⟩ := ends_bind.1 h
    obtain rfl := ends_modify.1 hset
    obtain ⟨rfl, rfl⟩ := ends_pure.1 h
    exact ⟨rfl, .closes hdiscard hclear⟩
  · rw [leaveFor_eq hop] at h
    cases ans with
    | ok reply =>
      obtain ⟨rfl, rfl⟩ := ends_pure.1 h
      exact ⟨rfl, .passes hop rfl⟩
    | error e =>
      unfold leaveOperation at h
      dsimp only at h
      split at h
      · next hfailover =>
        obtain ⟨_, u, hlog, h⟩ := ends_bind.1 h
        obtain ⟨_, v, hdiscard, h⟩ := ends_bind.1 h
        replace h := after_service h
        obtain ⟨_, t, hleave, h⟩ := ends_bind.1 h
        obtain ⟨rfl, rfl⟩ := ends_pure.1 h
        exact ⟨rfl, .breaks hop hfailover (noted_log hlog) hdiscard hleave⟩
      · next hcalm =>
        obtain ⟨rfl, rfl⟩ := ends_pure.1 h
        exact ⟨rfl, .passes hop (Bool.eq_false_iff.2 hcalm)⟩

end Split

end ReplicaRouter
