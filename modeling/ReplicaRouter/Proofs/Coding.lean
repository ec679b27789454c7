import ReplicaRouter.Error
/-
What the code of an error tells about its class. The class is a function of the code, as long as it is known whether the
router gave it or a driver reported it; the text of a code does not tell that.
Main statement: two errors whose codes have one text differ in class just if one of the codes was reported by a driver,
the other was not, and it is the code of a failover or of a timeout (`RouteError.classes_differ_iff`).
-/
namespace ReplicaRouter

namespace ErrorCode

/-- The class of the errors with a code. -/
def errorClass : ErrorCode → ErrorClass
  | failoverSuccess => .failoverOccurred
  | transactionUnknown => .failoverOccurred
  | unableToConnect => .recoverable
  | connectionFailure => .recoverable
  | timeout => .recoverable
  | activeTransaction => .fatal
  | general => .fatal
  | driver state => if "08".toList.isPrefixOf state.toList then .recoverable else .fatal

/-- Whether a driver reported the code. -/
def isReported : ErrorCode → Bool
  | driver _ => true
  | _ => false

/-- The codes that the router gives itself. -/
def own : List ErrorCode :=
  [activeTransaction, unableToConnect, failoverSuccess, transactionUnknown, connectionFailure, timeout, general]

/-- The codes of the router whose texts stand for another class when a driver reports them. -/
def ambiguous : List ErrorCode := [failoverSuccess, transactionUnknown, timeout]

variable {c d : ErrorCode}

theorem isReported_iff : c.isReported = true ↔ c = .driver c.text := by
  cases c <;> simp [isReported, text]

theorem mem_own_iff : c ∈ own ↔ c.isReported = false := by
  cases c <;> simp [own, isReported]

theorem text_injective_of_own (hc : c ∈ own) (hd : d ∈ own) (htext : c.text = d.text) : c = d := by
  have all : ∀ c ∈ own, ∀ d ∈ own, c.text = d.text → c = d := by decide
  exact all c hc d hd htext

/-- Two codes with one text are the same, unless just one of them was reported. -/
theorem eq_of_text_eq (hsame : c.isReported = d.isReported) (htext : c.text = d.text) : c = d := by
  cases hd : d.isReported with
  | true => rw [isReported_iff.1 (hsame.trans hd), isReported_iff.1 hd, htext]
  | false => exact text_injective_of_own (mem_own_iff.2 (hsame.trans hd)) (mem_own_iff.2 hd) htext

theorem class_of_reported_text (hd : d ∈ own) :
    (ErrorCode.driver d.text).errorClass ≠ d.errorClass ↔ d.text ∈ ambiguous.map text := by
  have all : ∀ d ∈ own, (ErrorCode.driver d.text).errorClass ≠ d.errorClass ↔ d.text ∈ ambiguous.map text := by
    decide
  exact all d hd

/-- A reported code and one of the router with the same text. -/
theorem class_ne_class_iff (hc : c.isReported = true) (hd : d.isReported = false) (htext : c.text = d.text) :
    c.errorClass ≠ d.errorClass ↔ c.text ∈ ambiguous.map text := by
  rw [isReported_iff.1 hc, htext]
  exact class_of_reported_text (mem_own_iff.2 hd)

theorem classes_ne_iff (htext : c.text = d.text) :
    c.errorClass ≠ d.errorClass ↔ c.isReported ≠ d.isReported ∧ c.text ∈ ambiguous.map text := by
  cases hc : c.isReported <;> cases hd : d.isReported
  case false.true =>
    rw [ne_comm, class_ne_class_iff hd hc htext.symm, htext]
    simp
  case true.false =>
    rw [class_ne_class_iff hc hd htext]
    simp
  all_goals simp [eq_of_text_eq (hc.trans hd.symm) htext]

/-- A code with the text of a failover's stands for a failover, unless a driver reported it. -/
theorem class_of_failover_text (htext : c.text = failoverSuccess.text ∨ c.text = transactionUnknown.text) :
    c.errorClass = if c.isReported then .recoverable else .failoverOccurred := by
  cases hc : c.isReported with
  | true =>
    rw [isReported_iff.1 hc]
    rcases htext with htext | htext <;> rw [htext] <;> decide
  | false =>
    have hown := mem_own_iff.2 hc
    rcases htext with htext | htext <;> rw [text_injective_of_own hown (by decide) htext] <;> rfl

end ErrorCode

namespace RouteError

theorem errorClass_eq (e : RouteError) : e.errorClass = e.code.errorClass := by
  cases e with
  | failover detail inTransaction => cases inTransaction <;> rfl
  | driver detail state => cases state <;> rfl
  | _ => rfl

/-- The text of an error's code tells its class, except where a driver reports the state of a failover or of a timeout:
such an error shares the text, and not the class, with the failovers or the timeouts of the router. So an error whose
code is that of a failover is said to be safe to retry just if the driver reported it. -/
theorem classes_differ_iff (e f : RouteError) :
    (e.code.text = f.code.text →
      (e.errorClass ≠ f.errorClass ↔
        e.code.isReported ≠ f.code.isReported ∧ e.code.text ∈ ["08S02", "08007", "HYT00"])) ∧
    (e.code.text = "08S02" ∨ e.code.text = "08007" → (e.isRetrySafe = true ↔ e.code.isReported = true)) := by
  constructor
  · intro htext
    rw [errorClass_eq e, errorClass_eq f]
    exact ErrorCode.classes_ne_iff htext
  · intro htext
    unfold isRetrySafe
    rw [errorClass_eq e, ErrorCode.class_of_failover_text htext]
    cases e.code.isReported <;> decide

/-- A state for an unknown outcome, as a driver reports it and as a failover in a transaction gives it. -/
theorem classes_differ_of_unknown :
    (driver "outcome unknown" (some "08007")).errorClass ≠ (failover "writer changed" true).errorClass ∧
      (driver "outcome unknown" (some "08007")).isRetrySafe = true := by
  have h := classes_differ_iff (driver "outcome unknown" (some "08007")) (failover "writer changed" true)
  exact ⟨(h.1 rfl).2 ⟨by decide, by decide⟩, (h.2 (.inr rfl)).2 rfl⟩

/-- A code does not always tell the class, and not even that the outcome is unknown: a driver that reports the state of
a failover in a transaction gives an error that counts as safe to retry. -/
theorem class_untold_of_unknown :
    (¬ ∀ e f : RouteError, e.code.text = f.code.text → e.errorClass = f.errorClass) ∧
      ¬ ∀ e : RouteError, e.code.text = "08S02" ∨ e.code.text = "08007" → e.isRetrySafe = false := by
  constructor
  · intro h
    exact absurd (h (driver "outcome unknown" (some "08007")) (failover "writer changed" true) rfl) (by decide)
  · intro h
    exact absurd (h (driver "outcome unknown" (some "08007")) (.inr rfl)) (by decide)

end RouteError

end ReplicaRouter
