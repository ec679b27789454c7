import ReplicaRouter.Proofs.Kinds
import ReplicaRouter.Proofs.Opening
import ReplicaRouter.Proofs.Staging
/-
The transaction state of a logical connection tells what its operations so far have come to, and nothing
else does: not which link is current, nor what becomes of the database meanwhile.
Main statements: what one answer makes of the state (`TransactionState.autocommit_follow`,
`TransactionState.isOpen_follow`), and what all the answers so far make of it (`Service.Lived.reckons`).
-/
namespace ReplicaRouter

variable {D : Type}

/-- An operation that ran, with its answer. -/
structure Execution where
  op : Operation
  answer : Answer

/-- The first statement of the operation's text meets `P`. -/
def Operation.Says (op : Operation) (P : List Char → Prop) : Prop :=
  ∃ sql s, op.sql? = some sql ∧ Statement.first? sql.toList = some s ∧ P s

/-- The autocommit mode that the operation asks for, where it asks for one that is recognised. -/
def Operation.mode? : Operation → Option Bool
  | setAutocommit autocommit => some autocommit
  | op => op.sql?.bind fun sql =>
      if Statement.setsAutocommit sql.toList then Statement.autocommitValue? sql.toList else none

namespace Execution

def Succeeded (x : Execution) : Prop := ∃ reply, x.answer = .ok reply

/-- The autocommit mode that the operation set: it asked for the mode, and succeeded. -/
def mode? (x : Execution) : Option Bool :=
  match x.answer with
  | .ok _ => x.op.mode?
  | .error _ => none

/-- The autocommit mode after the operations: the last one that was set. A session starts with autocommit on. -/
def autocommit (xs : List Execution) : Bool := (xs.reverse.findSome? mode?).getD true

/-- The operation opened a transaction, given the autocommit mode that it ran in: with a statement that says so,
or with data while autocommit was off. -/
def Opens (autocommit : Bool) (x : Execution) : Prop :=
  x.Succeeded ∧ (x.op.Says (Statement.isOpener · = true) ∨
    autocommit = false ∧ x.op.Says fun s =>
      s ≠ [] ∧ Statement.isOpener s = false ∧ Statement.isCloser s = false ∧ Statement.isSetting s = false)

/-- The operation closed whatever transaction was open, given the autocommit mode that it ran in: with a failover,
by saying so, or by turning autocommit on. -/
def Closes (autocommit : Bool) (x : Execution) : Prop :=
  x.answer.isFailover = true ∨
    x.Succeeded ∧ (x.op = .commit ∨ x.op = .rollback ∨ x.op = .close ∨ x.op.Says (Statement.isCloser · = true) ∨
      autocommit = false ∧ x.op.mode? = some true)

/-- Some operation opened a transaction, and none closed it after that. -/
def LeavesOpen (xs : List Execution) : Prop :=
  ∃ before x after, xs = before ++ x :: after ∧ x.Opens (autocommit before) ∧
    ∀ mid y rest, after = mid ++ y :: rest → ¬ y.Closes (autocommit (before ++ x :: mid))

end Execution

/-! ## One answer -/

section Step

variable {op : Operation} {autocommit : Bool} {reply : Reply} {e : RouteError} {sql : String}

theorem Operation.says_iff {P : List Char → Prop} (h : op.sql? = some sql) :
    op.Says P ↔ ∃ s, Statement.first? sql.toList = some s ∧ P s := by
  constructor
  · rintro ⟨sql', s, hsql, hs, hP⟩
    obtain rfl := Option.some_inj.1 (h.symm.trans hsql)
    exact ⟨s, hs, hP⟩
  · rintro ⟨s, hs, hP⟩
    exact ⟨sql, s, h, hs, hP⟩

theorem Operation.mode?_of_sql (h : op.sql? = some sql) : op.mode? =
    if Statement.setsAutocommit sql.toList then Statement.autocommitValue? sql.toList else none := by
  cases op with
  | query _ | update _ | execute _ => cases h; rfl
  | _ => cases h

theorem Operation.not_says {P : List Char → Prop} (h : op.sql? = none) : ¬ op.Says P := by
  rintro ⟨sql, -, hsql, -⟩
  rw [h] at hsql
  cases hsql

namespace Execution

theorem succeeded_ok : (⟨op, .ok reply⟩ : Execution).Succeeded := ⟨reply, rfl⟩

theorem not_succeeded_error : ¬ (⟨op, .error e⟩ : Execution).Succeeded := nofun

/-- A text opens a transaction if the first statement says so. -/
theorem opens_iff_of_sql (h : op.sql? = some sql) : (⟨op, .ok reply⟩ : Execution).Opens autocommit ↔
    Statement.opensTransaction sql.toList autocommit = true := by
  unfold Opens
  rw [and_iff_right succeeded_ok, Operation.says_iff h, Operation.says_iff h, Statement.opensTransaction_iff]
  constructor
  · rintro (⟨s, hs, ho⟩ | ⟨ha, s, hs, hd⟩)
    · exact ⟨s, hs, .inl ho⟩
    · exact ⟨s, hs, .inr ⟨ha, hd⟩⟩
  · rintro ⟨s, hs, ho | ⟨ha, hd⟩⟩
    · exact .inl ⟨s, hs, ho⟩
    · exact .inr ⟨ha, s, hs, hd⟩

/-- A text closes a transaction if the first statement says so, or turns autocommit on. -/
theorem closes_iff_of_sql (h : op.sql? = some sql) : (⟨op, .ok reply⟩ : Execution).Closes autocommit ↔
    Statement.closesTransaction sql.toList = true ∨ autocommit = false ∧ op.mode? = some true := by
  have hcommit : op ≠ .commit := by rintro rfl; cases h
  have hrollback : op ≠ .rollback := by rintro rfl; cases h
  have hclose : op ≠ .close := by rintro rfl; cases h
  unfold Closes
  rw [and_iff_right succeeded_ok, Operation.says_iff h, Statement.closesTransaction_iff]
  simp only [Answer.isFailover, Bool.false_eq_true, hcommit, hrollback, hclose, false_or]

theorem not_opens_of_sql (h : op.sql? = none) : ¬ (⟨op, .ok reply⟩ : Execution).Opens autocommit := by
  rintro ⟨-, hs | ⟨-, hs⟩⟩
  · exact Operation.not_says h hs
  · exact Operation.not_says h hs

end Execution

namespace TransactionState

variable {t : TransactionState} {ans : Answer}

theorem after_of_sql (h : op.sql? = some sql) : t.after op =
    if Statement.closesTransaction sql.toList then t.closed else t.afterStatement sql.toList := by
  cases op with
  | query _ | update _ | execute _ => cases h; rfl
  | _ => cases h

/-- A text that assigns the autocommit mode does just that. -/
theorem after_of_sets (h : op.sql? = some sql) (hset : Statement.setsAutocommit sql.toList = true) :
    t.after op = match op.mode? with
      | some autocommit => t.setAutocommit autocommit
      | none => t := by
  rw [after_of_sql h, Operation.mode?_of_sql h, (Statement.not_closes_of_sets hset).1,
    if_neg Bool.false_ne_true, if_pos hset]
  unfold afterStatement
  exact if_pos hset

/-- Any other text closes a transaction, opens one, or leaves the state alone. -/
theorem after_of_not_sets (h : op.sql? = some sql) (hset : Statement.setsAutocommit sql.toList = false) :
    t.after op =
      if Statement.closesTransaction sql.toList then t.closed
      else if Statement.opensTransaction sql.toList t.autocommit then { t with isOpen := true }
      else t := by
  rw [after_of_sql h]
  unfold afterStatement
  simp only [hset, Bool.false_eq_true, if_false]

theorem isOpen_setAutocommit {b : Bool} :
    (t.setAutocommit b).isOpen = true ↔ t.isOpen = true ∧ ¬ (t.autocommit = false ∧ b = true) := by
  unfold setAutocommit
  cases t.isOpen <;> cases t.autocommit <;> cases b <;> decide

theorem autocommit_after : (t.after op).autocommit = op.mode?.getD t.autocommit := by
  cases hsql : op.sql? with
  | none =>
    cases op with
    | query _ | update _ | execute _ => cases hsql
    | _ => rfl
  | some sql =>
    by_cases hset : Statement.setsAutocommit sql.toList = true
    · rw [after_of_sets hsql hset]
      cases op.mode? with
      | none => rfl
      | some b => rfl
    · rw [after_of_not_sets hsql (Bool.eq_false_iff.2 hset), Operation.mode?_of_sql hsql, if_neg hset]
      split
      · rfl
      · split <;> rfl

theorem isOpen_after : (t.after op).isOpen = true ↔
    (⟨op, .ok reply⟩ : Execution).Opens t.autocommit ∨
      t.isOpen = true ∧ ¬ (⟨op, .ok reply⟩ : Execution).Closes t.autocommit := by
  -- operations without a text decide by their kind, statements by what they set, open or close
  cases hsql : op.sql? with
  | none =>
    rw [or_iff_right (Execution.not_opens_of_sql hsql)]
    unfold Execution.Closes
    rw [and_iff_right Execution.succeeded_ok, or_iff_right (show ¬ Answer.isFailover (.ok reply) = true from nofun),
      or_iff_right (Operation.not_says hsql)]
    cases op with
    | query _ | update _ | execute _ => cases hsql
    | setAutocommit b =>
      rw [show t.after (.setAutocommit b) = t.setAutocommit b from rfl, isOpen_setAutocommit]
      simp [Operation.mode?]
    | commit | rollback | close => simp [after, closed, Operation.closesTransaction]
    | setReadOnly b => simp [after, Operation.mode?, Operation.closesTransaction, Operation.sql?]
  | some sql =>
    rw [Execution.opens_iff_of_sql hsql, Execution.closes_iff_of_sql hsql]
    by_cases hset : Statement.setsAutocommit sql.toList = true
    · obtain ⟨hc, ho⟩ := Statement.not_closes_of_sets hset
      rw [after_of_sets hsql hset, hc, ho]
      cases op.mode? with
      | none => simp
      | some b => simpa using isOpen_setAutocommit
    · rw [after_of_not_sets hsql (Bool.eq_false_iff.2 hset), Operation.mode?_of_sql hsql, if_neg hset]
      by_cases hc : Statement.closesTransaction sql.toList = true
      · have ho : ¬ Statement.opensTransaction sql.toList t.autocommit = true := by
          intro ho
          rw [Statement.not_closes_of_opens ho] at hc
          exact Bool.false_ne_true hc
        simp [hc, ho, closed]
      · by_cases ho : Statement.opensTransaction sql.toList t.autocommit = true
        · simp [hc, ho]
        · simp [hc, ho]

/-- After an answer the autocommit mode is the one that was set, if one was. -/
theorem autocommit_follow : (t.follow op ans).autocommit = (Execution.mode? ⟨op, ans⟩).getD t.autocommit := by
  unfold follow
  cases ans with
  | ok reply => exact autocommit_after
  | error e => dsimp only; split <;> rfl

/-- After an answer a transaction is open if it was opened by that operation, or was open and not closed by it. -/
theorem isOpen_follow : (t.follow op ans).isOpen = true ↔
    (⟨op, ans⟩ : Execution).Opens t.autocommit ∨ t.isOpen = true ∧ ¬ (⟨op, ans⟩ : Execution).Closes t.autocommit := by
  unfold follow
  cases ans with
  | ok reply => exact isOpen_after
  | error e =>
    have hopens : ¬ (⟨op, .error e⟩ : Execution).Opens t.autocommit := fun h => Execution.not_succeeded_error h.1
    have hcloses : (⟨op, .error e⟩ : Execution).Closes t.autocommit ↔ e.isFailover = true :=
      or_iff_left fun h => Execution.not_succeeded_error h.1
    rw [or_iff_right hopens, hcloses]
    dsimp only
    split
    · next hf => simp [hf, closed]
    · next hf => simp [hf]

end TransactionState

end Step

/-! ## All the answers -/

namespace Execution

variable {xs : List Execution} {x : Execution}

theorem autocommit_append : autocommit (xs ++ [x]) = x.mode?.getD (autocommit xs) := by
  unfold autocommit
  rw [List.reverse_append, List.reverse_singleton, List.singleton_append, List.findSome?_cons]
  cases x.mode? with
  | none => rfl
  | some b => rfl

theorem not_leavesOpen_nil : ¬ LeavesOpen [] := by
  rintro ⟨before, x, after, h, -⟩
  cases before <;> cases h

/-- With one more operation: it opened a transaction, or one was left open before and this did not close it. -/
theorem leavesOpen_append : LeavesOpen (xs ++ [x]) ↔
    x.Opens (autocommit xs) ∨ LeavesOpen xs ∧ ¬ x.Closes (autocommit xs) := by
  constructor
  · rintro ⟨before, y, after, heq, hopens, hnone⟩
    rcases List.eq_nil_or_concat after with rfl | ⟨after, z, rfl⟩
    · obtain ⟨rfl, hlast⟩ := List.append_inj' heq rfl
      obtain rfl := List.singleton_inj.1 hlast
      exact .inl hopens
    · rw [List.concat_eq_append, ← List.cons_append, ← List.append_assoc] at heq
      obtain ⟨rfl, hlast⟩ := List.append_inj' heq rfl
      obtain rfl := List.singleton_inj.1 hlast
      refine .inr ⟨⟨before, y, after, rfl, hopens, ?_⟩, ?_⟩
      · intro mid u rest hafter
        refine hnone mid u (rest ++ [x]) ?_
        rw [List.concat_eq_append, hafter]
        simp only [List.append_assoc, List.cons_append]
      · exact hnone after x [] (List.concat_eq_append ..)
  · rintro (hopens | ⟨⟨before, y, after, rfl, hopens, hnone⟩, hlast⟩)
    · refine ⟨xs, x, [], rfl, hopens, ?_⟩
      intro mid u rest h
      cases mid <;> cases h
    · refine ⟨before, y, after ++ [x], by simp, hopens, ?_⟩
      intro mid u rest hafter
      -- what comes later is the last operation, or was there before
      rcases List.eq_nil_or_concat rest with rfl | ⟨rest, v, rfl⟩
      · obtain ⟨rfl, hx⟩ := List.append_inj' hafter rfl
        obtain rfl := List.singleton_inj.1 hx
        exact hlast
      · rw [List.concat_eq_append, ← List.cons_append, ← List.append_assoc] at hafter
        exact hnone mid u rest (List.append_inj' hafter rfl).1

end Execution

/-! ## The life of a logical connection -/

namespace Service

variable {others : World D → World D → Prop} {p q : Place D} {xs : List Execution}

theorem transaction_setInitialHost {host : Host} {a : Unit} (h : Act.Ends others (setInitialHost host) p a q) :
    q.service.transaction = p.service.transaction := by
  obtain ⟨_, r, h1, h2⟩ := Act.ends_bind.1 h
  rw [Act.ends_modify.1 h2, (Act.ends_world.1 h1).2]

variable [Backend D]

/-- Operations ran to their answers one after the other. In between the current link was changed, the node behind
the first connection was recorded, and anything at all became of the world as time passed. -/
inductive Lived (others : World D → World D → Prop) (p : Place D) : List Execution → Place D → Prop
  | start : Lived others p [] p
  | execute {xs : List Execution} {q r : Place D} {op : Operation} {ans : Answer} (before : Lived others p xs q)
      (ran : Act.Ends others (Service.execute op) q ans r) : Lived others p (xs ++ [⟨op, ans⟩]) r
  | setCurrent {xs : List Execution} {q r : Place D} {l : Link} {host : Host} (before : Lived others p xs q)
      (ran : Act.Ends others (Service.setCurrent l host) q () r) : Lived others p xs r
  | setInitialHost {xs : List Execution} {q r : Place D} {host : Host} (before : Lived others p xs q)
      (ran : Act.Ends others (Service.setInitialHost host) q () r) : Lived others p xs r
  | elsewhere {xs : List Execution} {q : Place D} {t : Instant} {w : World D} (before : Lived others p xs q)
      (passed : q.clock ≤ t) : Lived others p xs { q with clock := t, world := w }

/-- Whatever others do meanwhile, the transaction state follows the answer. -/
theorem transaction_execute {op : Operation} {ans : Answer} (h : Act.Ends others (execute op) p ans q) :
    q.service.transaction = p.service.transaction.follow op ans := by
  cases executes_execute h with
  | missing => rfl
  | runs => rfl

theorem transaction_setCurrent {l : Link} {host : Host} {a : Unit} (h : Act.Ends others (setCurrent l host) p a q) :
    q.service.transaction = p.service.transaction := by
  rw [Act.Ends, setCurrent_run] at h
  obtain ⟨_, _, _, -, h⟩ := Routine.ends_bind.1 h
  obtain ⟨_, _, _, -, h⟩ := Routine.ends_bind.1 h
  obtain ⟨_, _, _, -, h⟩ := Routine.ends_bind.1 h
  obtain ⟨he, -, -⟩ := Routine.ends_pure.1 h
  rw [(Prod.mk.inj he).2]

/-- The transaction state of a logical connection that began without a transaction and with autocommit on is the
history of its operations: a transaction is open if and only if one of them opened one that none closed since, and
autocommit is as it was last set. -/
theorem Lived.reckons (h : Lived others p xs q) (fresh : p.service.transaction = {}) :
    (q.service.inTransaction = true ↔ Execution.LeavesOpen xs) ∧
      q.service.transaction.autocommit = Execution.autocommit xs := by
  unfold inTransaction
  induction h with
  | start =>
    rw [fresh]
    exact ⟨iff_of_false Bool.false_ne_true Execution.not_leavesOpen_nil, rfl⟩
  | execute _ ran ih =>
    rw [transaction_execute ran, TransactionState.isOpen_follow, TransactionState.autocommit_follow, ih.2, ih.1,
      Execution.leavesOpen_append, Execution.autocommit_append]
    exact ⟨.rfl, rfl⟩
  | setCurrent _ ran ih => rw [transaction_setCurrent ran]; exact ih
  | setInitialHost _ ran ih => rw [transaction_setInitialHost ran]; exact ih
  | elsewhere _ _ ih => exact ih

/-- The operations that run one after the other without waiting. -/
def executes? (p : Place D) : List Operation → Option (List Execution × Place D)
  | [] => some ([], p)
  | op :: ops => do
    let (ans, q) ← (execute op).end? p
    let (xs, r) ← executes? q ops
    return (⟨op, ans⟩ :: xs, r)

theorem Lived.executes {ys : List Execution} {r : Place D} {ops : List Operation} (h : Lived others p xs q)
    (hrun : executes? q ops = some (ys, r)) : Lived others p (xs ++ ys) r := by
  induction ops generalizing q xs ys with
  | nil =>
    cases hrun
    rw [List.append_nil]
    exact h
  | cons op ops ih =>
    obtain ⟨⟨ans, u⟩, hans, hrun⟩ := Option.bind_eq_some_iff.1 hrun
    obtain ⟨⟨zs, v⟩, hzs, hrun⟩ := Option.bind_eq_some_iff.1 hrun
    cases hrun
    have hnext := ih (.execute h (Act.ends_of_end? hans)) hzs
    rw [List.append_assoc] at hnext
    exact hnext

theorem Lived.of_isSome {ops : List Operation} (h : (executes? p ops).isSome = true) :
    Lived others p ((executes? p ops).get h).1 ((executes? p ops).get h).2 :=
  Lived.executes .start (Option.some_get h).symm

end Service

/-- With autocommit off a change is committed, and data is read after that. -/
def Stage.executed : List Execution × Place Sim.Cluster :=
  (Service.executes? Stage.session.toPlace [.setAutocommit false, .update "insert into t values (1)", .commit,
    .query "select 1"]).get (by decide +kernel)

/-- The read left a transaction open: the history says so because the connection does. -/
theorem Service.leavesOpen_of_stage : Execution.LeavesOpen Stage.executed.1 ∧ Stage.executed.1.map (·.op) =
    [.setAutocommit false, .update "insert into t values (1)", .commit, .query "select 1"] := by
  have hlived : Lived World.Aside Stage.session.toPlace Stage.executed.1 Stage.executed.2 :=
    Lived.of_isSome _
  refine ⟨(hlived.reckons (by decide +kernel)).1.1 ?_, ?_⟩
  · decide +kernel
  · decide +kernel

end ReplicaRouter
