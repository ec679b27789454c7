import ReplicaRouter.Proofs.Commenting
import ReplicaRouter.Proofs.Kinds
import ReplicaRouter.Proofs.Spelling
/-
The classes of statements. A text is put into its class by the normal form of what precedes its first `;`: in capitals,
with blanks collapsed, comments taken out and nothing blank at the ends.
Main statement: each text is of exactly one class, which answers all questions about it, and neither what follows the
first `;` nor the kind and number of blanks nor the case of ASCII letters matters (`Statement.classes_partition`).
-/
namespace ReplicaRouter.Statement

open Text

variable {sql s t ws ws' : List Char} {k : Kind}

/-! ## Normal forms -/

/-- The normal form of a text without `;`. -/
def normal (s : List Char) : List Char := trim (withoutComments (caps s))

theorem head?_cut (sep : Char) (s : List Char) : (cut sep s).head? = some (beforeFirst sep s) := by
  unfold beforeFirst
  induction s with
  | nil => rfl
  | cons c s ih =>
    rw [cut, List.takeWhile_cons]
    by_cases hc : c = sep
    · rw [if_pos hc, if_neg (by simp [hc])]
      rfl
    · rw [if_neg hc, if_pos (bne_iff_ne.2 hc)]
      cases hcut : cut sep s with
      | nil =>
        rw [hcut] at ih
        cases ih
      | cons piece rest =>
        rw [hcut] at ih
        exact congrArg (fun o => o.map (c :: ·)) ih

theorem first?_of_blank (h : Blank sql) : first? sql = none := by
  have htrim : trim sql = [] := by
    rw [trim, trimStart_eq_nil_iff.2 h]
    rfl
  unfold first? split
  rw [htrim]
  rfl

theorem first?_of_not_blank (h : ¬ Blank sql) : first? sql = some (normal (beforeFirst ';' sql)) := by
  have htrim : (trim sql).isEmpty = false := by
    refine List.isEmpty_eq_false_iff.2 fun hnil => h ?_
    obtain ⟨ws, ws', hws, hws', hs⟩ := exists_trim sql
    rw [hs, hnil]
    exact hws.append hws'
  unfold first? split
  rw [htrim, if_neg Bool.false_ne_true, head?_cut, collapse, beforeFirst_collapseAfter false rfl]
  rfl

theorem normal_of_blank (h : Blank s) : normal s = [] := by
  obtain ⟨ws, hws, hcaps⟩ := caps_append_blank [] h
  obtain ⟨ws', hws', hs⟩ := withoutComments_blank_append [] hws
  rw [List.append_nil, withoutComments_nil, List.append_nil] at hs
  unfold normal
  rw [← List.nil_append s, hcaps, show caps [] ++ ws = ws from rfl, hs, trim, trimStart_eq_nil_iff.2 hws']
  rfl

/-- The kind of a text is that of its normal form. -/
theorem kind_eq (sql : List Char) : kind sql = Kind.of (normal (beforeFirst ';' sql)) := by
  unfold kind
  by_cases h : Blank sql
  · rw [first?_of_blank h, beforeFirst_of_not_mem (h.not_mem rfl), normal_of_blank h]
    rfl
  · rw [first?_of_not_blank h]
    rfl

theorem setsAutocommit_eq (sql : List Char) :
    setsAutocommit sql = startsWith "SET AUTOCOMMIT" (normal (beforeFirst ';' sql)) := by
  unfold setsAutocommit
  by_cases h : Blank sql
  · rw [first?_of_blank h, beforeFirst_of_not_mem (h.not_mem rfl), normal_of_blank h]
    rfl
  · rw [first?_of_not_blank h]

/-! ## Texts that are told apart by nothing -/

/-- All questions about the two texts have the same answers. -/
structure Alike (s t : List Char) : Prop where
  opens (autocommit : Bool) : opensTransaction s autocommit = opensTransaction t autocommit
  closes : closesTransaction s = closesTransaction t
  isData : isData s = isData t
  sets : setsAutocommit s = setsAutocommit t

theorem alike_of_kind (hkind : kind s = kind t) (hsets : setsAutocommit s = setsAutocommit t) : Alike s t where
  opens autocommit := by simp only [opensTransaction, hkind]
  closes := by simp only [closesTransaction, hkind]
  isData := by simp only [isData, hkind]
  sets := hsets

theorem alike_of_normal (h : normal (beforeFirst ';' s) = normal (beforeFirst ';' t)) : Alike s t :=
  alike_of_kind (by rw [kind_eq, kind_eq, h]) (by rw [setsAutocommit_eq, setsAutocommit_eq, h])

theorem normal_pad (h : Blank ws) (h' : Blank ws') : normal (ws ++ (s ++ ws')) = normal s := by
  obtain ⟨as, has, hcaps⟩ := caps_append_blank s h'
  -- first the blanks at the end, then those at the start
  have hend : normal (s ++ ws') = normal s := by
    obtain ⟨bs, hbs, hs⟩ := withoutComments_append_blank (caps s) has
    unfold normal
    rw [hcaps, hs]
    exact trim_pad blank_nil hbs
  have hstart : ∀ {ws t : List Char}, Blank ws → trim (withoutComments (ws ++ t)) = trim (withoutComments t) := by
    intro ws t hws
    obtain ⟨bs, hbs, ht⟩ := withoutComments_blank_append t hws
    rw [ht, trim_blank_append hbs]
  have htrim : ∀ t : List Char, normal t = normal (trimStart t) := by
    intro t
    obtain ⟨bs, hbs, ht⟩ := exists_trimStart (caps t)
    unfold normal
    rw [← trimStart_caps]
    conv_lhs => rw [ht]
    exact hstart hbs
  rw [htrim, trimStart_append h, ← htrim, hend]

/-- What follows the first `;` does not matter. -/
theorem alike_append_cons (h : ';' ∉ s) (t : List Char) : Alike (s ++ ';' :: t) s := by
  refine alike_of_normal ?_
  rw [beforeFirst_append_cons h, beforeFirst_of_not_mem h]

/-- The kind and the number of the blanks between two parts do not matter. -/
theorem alike_between (s t : List Char) (h : Blank ws) (h' : Blank ws') (hne : ws ≠ []) (hne' : ws' ≠ []) :
    Alike (s ++ (ws ++ t)) (s ++ (ws' ++ t)) := by
  refine alike_of_normal ?_
  by_cases hs : ';' ∈ s
  · rw [beforeFirst_append_of_mem hs, beforeFirst_append_of_mem hs]
  · rw [beforeFirst_append_of_not_mem hs, beforeFirst_append_of_not_mem hs,
      beforeFirst_append_of_not_mem (h.not_mem rfl), beforeFirst_append_of_not_mem (h'.not_mem rfl)]
    unfold normal
    rw [caps_between h h' hne hne']

theorem alike_pad (s : List Char) (h : Blank ws) (h' : Blank ws') : Alike (ws ++ (s ++ ws')) s := by
  refine alike_of_normal ?_
  rw [beforeFirst_append_of_not_mem (h.not_mem rfl)]
  by_cases hs : ';' ∈ s
  · rw [beforeFirst_append_of_mem hs]
    have hpad := normal_pad (s := beforeFirst ';' s) h blank_nil
    rwa [List.append_nil] at hpad
  · rw [beforeFirst_append_of_not_mem hs, beforeFirst_of_not_mem (h'.not_mem rfl), normal_pad h h',
      beforeFirst_of_not_mem hs]

theorem alike_of_map_asciiLower (h : s.map asciiLower = t.map asciiLower) : Alike s t := by
  have hlower : ∀ s : List Char, normal (beforeFirst ';' (s.map asciiLower)) = normal (beforeFirst ';' s) := by
    intro s
    unfold normal
    rw [beforeFirst_map_asciiLower (by decide), caps_map_asciiLower]
  refine alike_of_normal ?_
  rw [← hlower s, h, hlower t]

/-! ## Classes -/

/-- What puts a text into a class: its first statement is missing or empty, starts with a word of the class, or is none
of these. -/
def Is (sql : List Char) : Kind → Prop
  | .empty => ∀ s, first? sql = some s → s = []
  | .opener => ∃ s, first? sql = some s ∧ isOpener s = true
  | .closer => ∃ s, first? sql = some s ∧ isCloser s = true
  | .setting => ∃ s, first? sql = some s ∧ isSetting s = true
  | .data => ∃ s, first? sql = some s ∧ s ≠ [] ∧ isOpener s = false ∧ isCloser s = false ∧ isSetting s = false

/-- A text is in the class of its kind, and in no other. -/
theorem is_iff : Is sql k ↔ kind sql = k := by
  cases k with
  | empty =>
    unfold Is kind
    cases first? sql with
    | none => exact iff_of_true nofun rfl
    | some s => simp [Kind.of_eq_empty_iff]
  | opener => simp only [Is, kind_eq_iff (k := .opener) nofun, Kind.of_eq_opener_iff]
  | closer => simp only [Is, kind_eq_iff (k := .closer) nofun, Kind.of_eq_closer_iff]
  | setting => simp only [Is, kind_eq_iff (k := .setting) nofun, Kind.of_eq_setting_iff]
  | data => simp only [Is, kind_eq_iff (k := .data) nofun, Kind.of_eq_data_iff]

theorem opensTransaction_true_iff : opensTransaction sql true = true ↔ Is sql .opener := by
  rw [is_iff, opensTransaction]
  cases kind sql <;> decide

theorem opensTransaction_false_iff : opensTransaction sql false = true ↔ Is sql .opener ∨ Is sql .data := by
  rw [is_iff, is_iff, opensTransaction]
  cases kind sql <;> decide

theorem is_setting_of_sets (h : setsAutocommit sql = true) : Is sql .setting := by
  obtain ⟨s, hs, hset⟩ := setsAutocommit_iff.1 h
  exact ⟨s, hs, startsWith_of_prefix rfl hset⟩

/-- Each text is of exactly one class, and the class answers the questions about the text. Only what precedes the first
`;` tells the class; blanks between parts count as one, blanks at the ends do not count, and neither does the case of
ASCII letters. -/
theorem classes_partition :
    (∀ sql, (∃! k, Is sql k) ∧
      (opensTransaction sql true = true ↔ Is sql .opener) ∧
      (opensTransaction sql false = true ↔ Is sql .opener ∨ Is sql .data) ∧
      (closesTransaction sql = true ↔ Is sql .closer) ∧
      (isData sql = true ↔ Is sql .data) ∧
      (setsAutocommit sql = true → Is sql .setting) ∧
      ∀ autocommit, opensTransaction sql autocommit = true → closesTransaction sql = false) ∧
    (∀ s t, ';' ∉ s → Alike (s ++ ';' :: t) s) ∧
    (∀ s t ws ws', Blank ws → Blank ws' → ws ≠ [] → ws' ≠ [] → Alike (s ++ (ws ++ t)) (s ++ (ws' ++ t))) ∧
    (∀ s ws ws', Blank ws → Blank ws' → Alike (ws ++ (s ++ ws')) s) ∧
    ∀ s t, s.map asciiLower = t.map asciiLower → Alike s t := by
  refine ⟨fun sql => ⟨⟨kind sql, is_iff.2 rfl, fun k hk => (is_iff.1 hk).symm⟩, opensTransaction_true_iff,
    opensTransaction_false_iff, ?_, ?_, is_setting_of_sets, fun _ => not_closes_of_opens⟩,
    fun s t h => alike_append_cons h t, fun s t _ _ => alike_between s t, fun s _ _ => alike_pad s,
    fun _ _ => alike_of_map_asciiLower⟩
  · rw [is_iff, closesTransaction, beq_iff_eq]
  · rw [is_iff, isData, beq_iff_eq]

/-- However it is spelt and whatever follows it, `START TRANSACTION` opens a transaction and closes none. -/
theorem classes_partition_start :
    let plain := "START TRANSACTION".toList
    (∃! k, Is plain k) ∧ opensTransaction plain true = true ∧ closesTransaction plain = false ∧
      Alike (plain ++ ';' :: "commit".toList) plain ∧
      Alike ("START".toList ++ ("\n\t".toList ++ "TRANSACTION".toList))
        ("START".toList ++ ([' '] ++ "TRANSACTION".toList)) ∧
      Alike ([' '] ++ (plain ++ ['\n'])) plain ∧
      Alike "Start Transaction".toList plain := by
  obtain ⟨hclass, hcut, hbetween, hpad, hcase⟩ := classes_partition
  obtain ⟨hone, -, -, -, -, -, hcloses⟩ := hclass "START TRANSACTION".toList
  have hopener : opensTransaction "START TRANSACTION".toList true = true := by decide +kernel
  exact ⟨hone, hopener, hcloses true hopener, hcut _ _ (by decide),
    hbetween _ _ _ _ (by decide) (by decide) nofun nofun, hpad _ _ _ (by decide) (by decide),
    hcase _ _ (by decide)⟩

end ReplicaRouter.Statement
