import ReplicaRouter.Statement
/-
The words that tell what a statement is for exclude one another: no statement starts with two of them. So
each question about a text can be answered from its first statement alone, whatever was asked before.
Main statements: `Statement.opensTransaction_iff`, `Statement.closesTransaction_iff` and
`Statement.not_closes_of_sets`.
-/
namespace ReplicaRouter.Statement

open Text

variable {s sql : List Char}

/-! ## Words that exclude one another -/

theorem startsWith_iff {word : String} : startsWith word s = true ↔ word.toList <+: s :=
  List.isPrefixOf_iff_prefix

/-- Of two words neither of which starts with the other, a text starts with one at most. -/
theorem startsWith_eq_false {a b : String} (hab : startsWith a b.toList = false) (hba : startsWith b a.toList = false)
    (h : startsWith a s = true) : startsWith b s = false := by
  rw [← Bool.not_eq_true] at hab hba ⊢
  rw [startsWith_iff] at *
  intro hb
  rcases List.prefix_or_prefix_of_prefix h hb with hp | hp
  · exact hab hp
  · exact hba hp

theorem startsWith_of_prefix {a b : String} (hab : startsWith a b.toList = true) (h : startsWith b s = true) :
    startsWith a s = true := by
  rw [startsWith_iff] at *
  exact hab.trans h

theorem isCloser_eq_false_of_isOpener (h : isOpener s = true) : isCloser s = false := by
  unfold isOpener at h
  unfold isCloser
  simp only [Bool.or_eq_true, Bool.or_eq_false_iff] at h ⊢
  rcases h with h | h
  all_goals exact ⟨⟨⟨startsWith_eq_false rfl rfl h, startsWith_eq_false rfl rfl h⟩,
    startsWith_eq_false rfl rfl h⟩, startsWith_eq_false rfl rfl h⟩

theorem isSetting_eq_false_of_isOpener (h : isOpener s = true) : isSetting s = false := by
  unfold isOpener at h
  rw [Bool.or_eq_true] at h
  rcases h with h | h
  · exact startsWith_eq_false rfl rfl h
  · exact startsWith_eq_false rfl rfl h

theorem isCloser_eq_false_of_isSetting (h : isSetting s = true) : isCloser s = false := by
  unfold isSetting at h
  unfold isCloser
  simp only [Bool.or_eq_false_iff]
  exact ⟨⟨⟨startsWith_eq_false rfl rfl h, startsWith_eq_false rfl rfl h⟩,
    startsWith_eq_false rfl rfl h⟩, startsWith_eq_false rfl rfl h⟩

/-! ## Kinds -/

namespace Kind

theorem of_eq_opener_iff : Kind.of s = .opener ↔ isOpener s = true := by
  unfold Kind.of
  by_cases he : s = []
  · subst he; decide
  · grind [List.isEmpty_iff]

theorem of_eq_closer_iff : Kind.of s = .closer ↔ isCloser s = true := by
  unfold Kind.of
  by_cases he : s = []
  · subst he; decide
  · grind [List.isEmpty_iff, isCloser_eq_false_of_isOpener]

theorem of_eq_setting_iff : Kind.of s = .setting ↔ isSetting s = true := by
  unfold Kind.of
  by_cases he : s = []
  · subst he; decide
  · grind [List.isEmpty_iff, isSetting_eq_false_of_isOpener, isCloser_eq_false_of_isSetting]

theorem of_eq_empty_iff : Kind.of s = .empty ↔ s = [] := by
  unfold Kind.of
  grind [List.isEmpty_iff]

/-- Data is what is none of the others. -/
theorem of_eq_data_iff :
    Kind.of s = .data ↔ s ≠ [] ∧ isOpener s = false ∧ isCloser s = false ∧ isSetting s = false := by
  unfold Kind.of
  grind [List.isEmpty_iff]

end Kind

/-- A text is of a kind other than empty if its first statement is. -/
theorem kind_eq_iff {k : Kind} (hk : k ≠ .empty) : kind sql = k ↔ ∃ s, first? sql = some s ∧ Kind.of s = k := by
  unfold kind
  cases first? sql with
  | none => simp [hk.symm]
  | some s => simp

/-- The text opens a transaction: its first statement is an opener, or it is data and autocommit is off. -/
theorem opensTransaction_iff {autocommit : Bool} : opensTransaction sql autocommit = true ↔
    ∃ s, first? sql = some s ∧ (isOpener s = true ∨
      autocommit = false ∧ s ≠ [] ∧ isOpener s = false ∧ isCloser s = false ∧ isSetting s = false) := by
  have hkind : opensTransaction sql autocommit = true ↔ kind sql = .opener ∨ autocommit = false ∧ kind sql = .data := by
    unfold opensTransaction
    cases kind sql <;> simp
  rw [hkind, kind_eq_iff (k := .opener) nofun, kind_eq_iff (k := .data) nofun]
  simp only [Kind.of_eq_opener_iff, Kind.of_eq_data_iff]
  constructor
  · rintro (⟨s, hs, ho⟩ | ⟨ha, s, hs, hd⟩)
    · exact ⟨s, hs, .inl ho⟩
    · exact ⟨s, hs, .inr ⟨ha, hd⟩⟩
  · rintro ⟨s, hs, ho | ⟨ha, hd⟩⟩
    · exact .inl ⟨s, hs, ho⟩
    · exact .inr ⟨ha, s, hs, hd⟩

theorem closesTransaction_iff : closesTransaction sql = true ↔ ∃ s, first? sql = some s ∧ isCloser s = true := by
  unfold closesTransaction
  rw [beq_iff_eq, kind_eq_iff (k := .closer) nofun]
  simp only [Kind.of_eq_closer_iff]

theorem setsAutocommit_iff :
    setsAutocommit sql = true ↔ ∃ s, first? sql = some s ∧ startsWith "SET AUTOCOMMIT" s = true := by
  unfold setsAutocommit
  cases first? sql with
  | none => simp
  | some s => simp

/-- A text that assigns the autocommit mode neither closes nor opens a transaction. -/
theorem not_closes_of_sets (h : setsAutocommit sql = true) :
    closesTransaction sql = false ∧ ∀ autocommit, opensTransaction sql autocommit = false := by
  obtain ⟨s, hs, hset⟩ := setsAutocommit_iff.1 h
  have hsetting : isSetting s = true := startsWith_of_prefix rfl hset
  constructor
  · rw [← Bool.not_eq_true, closesTransaction_iff]
    rintro ⟨s', hs', hc⟩
    obtain rfl := Option.some_inj.1 (hs.symm.trans hs')
    rw [isCloser_eq_false_of_isSetting hsetting] at hc
    exact Bool.false_ne_true hc
  · intro autocommit
    rw [← Bool.not_eq_true, opensTransaction_iff]
    rintro ⟨s', hs', ho | ⟨-, -, -, -, hn⟩⟩
    · obtain rfl := Option.some_inj.1 (hs.symm.trans hs')
      rw [isSetting_eq_false_of_isOpener ho] at hsetting
      exact Bool.false_ne_true hsetting
    · obtain rfl := Option.some_inj.1 (hs.symm.trans hs')
      rw [hn] at hsetting
      exact Bool.false_ne_true hsetting

/-- A text that opens a transaction does not close one. -/
theorem not_closes_of_opens {autocommit : Bool} (h : opensTransaction sql autocommit = true) :
    closesTransaction sql = false := by
  obtain ⟨s, hs, ho⟩ := opensTransaction_iff.1 h
  rw [← Bool.not_eq_true, closesTransaction_iff]
  rintro ⟨s', hs', hc⟩
  obtain rfl := Option.some_inj.1 (hs.symm.trans hs')
  rcases ho with ho | ⟨-, -, -, hn, -⟩
  · rw [isCloser_eq_false_of_isOpener ho] at hc
    exact Bool.false_ne_true hc
  · rw [hn] at hc
    exact Bool.false_ne_true hc

end ReplicaRouter.Statement
