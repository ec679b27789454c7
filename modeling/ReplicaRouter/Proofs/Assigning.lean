import ReplicaRouter.Proofs.Classes
/-
The assigned autocommit mode. It is read from the text as it stands, between the first `=` and the next `;`, while the
statement that assigns it is told from the normal form of what precedes the first `;`. Both readings come to the same
value, except that the text may borrow one from a later statement, and that a comment or a `ſ` may hide one.
Main statements: what capitals make of a truth value (`truthValue?_caps`), the two readings agree without a borrowed or
hidden value (`autocommitValue?_eq_normal`), and so just where they agree (`value_of_sets`).
-/
namespace ReplicaRouter.Statement

open Text

variable {sql s t u a b w : List Char} {c x : Char}

/-! ## Truth values in capitals -/

/-- The texts that spell a truth value. -/
def valueWords : List (List Char) := ["false".toList, "0".toList, "true".toList, "1".toList]

theorem truthValue?_congr (h : ∀ w ∈ valueWords, s.map asciiLower = w ↔ t.map asciiLower = w) :
    truthValue? s = truthValue? t := by
  unfold truthValue?
  simp only [h "false".toList (by decide), h "0".toList (by decide), h "true".toList (by decide),
    h "1".toList (by decide)]

theorem truthValue?_of_mem (hc : c ∈ s) (h : ∀ w ∈ valueWords, asciiLower c ∉ w) : truthValue? s = none := by
  have hne : ∀ w ∈ valueWords, s.map asciiLower ≠ w := fun w hw heq => h w hw (heq ▸ List.mem_map_of_mem hc)
  unfold truthValue?
  simp only [hne "false".toList (by decide), hne "0".toList (by decide), hne "true".toList (by decide),
    hne "1".toList (by decide), or_self, if_false]

/-- What may follow within a truth value. -/
def valueTails : List (List Char) := valueWords.flatMap List.tails

/-- The codes of the characters that truth values are spelt with. -/
def valueCodes : List Nat := "false01trueFALSETRUE".toList.map Char.toNat

theorem mem_valueCodes (h : w ∈ valueTails) (hc : asciiLower c ∈ w) : c.toNat ∈ valueCodes := by
  have hlower : ∀ w ∈ valueTails, w.all (·.toNat ∈ valueCodes) = true := by decide +kernel
  have hcapital : ∀ c ∈ letters 65, ∀ w ∈ valueTails, asciiLower c ∈ w → c.toNat ∈ valueCodes :=
    forall_letters (by decide +kernel)
  rcases asciiLower_cases c with heq | hletter
  · exact of_decide_eq_true (List.all_eq_true.1 (hlower w h) c (heq ▸ hc))
  · exact hcapital c hletter w h hc

/-- A character that comes up in capitals as part of a truth value does so as itself, unless it is `ſ`. -/
theorem lower_upperOf (hc : c ≠ 'ſ') (hw : w ∈ valueTails) (h : (upperOf c).map asciiLower <+: w) :
    (upperOf c).map asciiLower = [asciiLower c] := by
  rcases upperOf_cases c with hupper | ⟨hletter, -⟩ | ⟨e, he, hupper⟩ | ⟨run, d, hmaps, hupper⟩
  · rw [hupper]
    rfl
  · have hsame : ∀ c ∈ letters 97, (upperOf c).map asciiLower = [asciiLower c] := forall_letters (by decide +kernel)
    exact hsame c hletter
  · have htexts : ∀ e ∈ upperTexts, ∀ w ∈ valueTails, ¬ (e.2.map Char.ofNat).map asciiLower <+: w := by decide +kernel
    rw [hupper] at h
    exact absurd h (htexts e he w hw)
  · -- of all characters that a run leads from to one of these letters, `ſ` is the only one
    have hruns : ∀ run ∈ upperRuns, ∀ n ∈ valueCodes, n ≠ 0 ∧ (run.covers ((n : Int) - run.shift).toNat = true →
        ((n : Int) - run.shift).toNat = 'ſ'.toNat) := by decide +kernel
    rw [hupper] at h
    obtain ⟨hpos, hlong⟩ := hruns run hmaps.listed d.toNat (mem_valueCodes hw (h.mem List.mem_cons_self))
    rw [hmaps.back hpos] at hlong
    exact absurd (Char.toNat_inj.1 (hlong hmaps.covers)) hc

/-- A truth value comes up as itself in capitals. -/
theorem upperOf_of_mem (hw : w ∈ valueTails) (hc : asciiLower c ∈ w) : (upperOf c).map asciiLower = [asciiLower c] := by
  have hsame : ∀ n ∈ valueCodes, (upperOf (Char.ofNat n)).map asciiLower = [asciiLower (Char.ofNat n)] := by
    decide +kernel
  have h := hsame _ (mem_valueCodes hw hc)
  rwa [Char.ofNat_toNat] at h

theorem valueTails_of_cons (h : c :: w ∈ valueTails) : w ∈ valueTails := by
  obtain ⟨v, hv, htail⟩ := List.mem_flatMap.1 h
  exact List.mem_flatMap.2 ⟨v, hv, (List.mem_tails _ _).2 ((List.suffix_cons c w).trans ((List.mem_tails _ _).1 htail))⟩

theorem map_upper_eq_iff (hs : 'ſ' ∉ s) (hw : w ∈ valueTails) :
    (upper s).map asciiLower = w ↔ s.map asciiLower = w := by
  induction s generalizing w with
  | nil => rfl
  | cons c s ih =>
    rw [upper_cons, List.map_append, List.map_cons]
    constructor
    · intro h
      have hhead := lower_upperOf (List.ne_of_not_mem_cons hs).symm hw ⟨_, h⟩
      rw [hhead] at h
      subst h
      rw [(ih (List.not_mem_of_not_mem_cons hs) (valueTails_of_cons hw)).1 rfl]
      rfl
    · intro h
      subst h
      rw [upperOf_of_mem hw List.mem_cons_self, (ih (List.not_mem_of_not_mem_cons hs) (valueTails_of_cons hw)).2 rfl]
      rfl

theorem mem_valueTails (h : w ∈ valueWords) : w ∈ valueTails :=
  List.mem_flatMap.2 ⟨w, h, (List.mem_tails _ _).2 List.suffix_rfl⟩

/-- Capitals spell the same truth value. -/
theorem truthValue?_caps (hs : 'ſ' ∉ s) : truthValue? (caps s) = truthValue? s := by
  have hblank : ∀ {t w : List Char}, w ∈ valueWords → t.map asciiLower = w → ∀ c ∈ t, isBlank c = false := by
    have hwords : ∀ w ∈ valueWords, Unmarked w := by decide +kernel
    intro t w hw ht c hc
    rw [← isBlank_asciiLower]
    exact (hwords w hw).not_blank _ (ht ▸ List.mem_map_of_mem hc)
  refine truthValue?_congr fun w hw => ?_
  rw [← map_upper_eq_iff hs (mem_valueTails hw)]
  constructor
  · intro h
    rwa [(caps_eq_iff (hblank hw h)).1 rfl]
  · intro h
    rwa [(caps_eq_iff (hblank hw h)).2 rfl]

/-! ## The value in a text -/

theorem autocommitValue?_append_cons (ha : '=' ∉ a) (b : List Char) :
    autocommitValue? (a ++ '=' :: b) = truthValue? (trim (beforeFirst ';' b)) := by
  have htrim : trim (a ++ '=' :: b) = trimStart a ++ '=' :: trimEnd b := by
    have hend := trimEnd_append_of_ne (t := b) (trimEnd_of_not_blank (s := trimStart a) (c := '=') rfl)
    rw [trim, trimStart_append_cons rfl]
    simpa using hend
  have ha' : '=' ∉ trimStart a := fun h => ha ((List.dropWhile_suffix isBlank).mem h)
  -- the text is trimmed before it is cut, which only matters where no `;` follows
  have hrest : trim (beforeFirst ';' (trimEnd b)) = trim (beforeFirst ';' b) := by
    obtain ⟨ws, hws, hb⟩ := exists_trimEnd b
    conv_rhs => rw [hb]
    by_cases hmem : ';' ∈ trimEnd b
    · rw [beforeFirst_append_of_mem hmem]
    · rw [beforeFirst_append_of_not_mem hmem, beforeFirst_of_not_mem hmem, beforeFirst_of_not_mem (hws.not_mem rfl)]
      exact (trim_pad blank_nil hws).symm
  unfold autocommitValue?
  rw [htrim, cutOnce_append_cons ha']
  exact congrArg truthValue? hrest

theorem autocommitValue?_of_not_mem (h : '=' ∉ sql) : autocommitValue? sql = none := by
  unfold autocommitValue?
  rw [cutOnce_of_not_mem fun hmem => h (mem_of_mem_trim hmem)]

/-- What precedes the first `=` does not matter. -/
theorem autocommitValue?_append (h : '=' ∉ t) (u : List Char) : autocommitValue? (t ++ u) = autocommitValue? u := by
  by_cases hu : '=' ∈ u
  · obtain ⟨a, b, rfl, ha⟩ := List.eq_append_cons_of_mem hu
    rw [← List.append_assoc, autocommitValue?_append_cons (by simp [h, ha]), autocommitValue?_append_cons ha]
  · rw [autocommitValue?_of_not_mem hu, autocommitValue?_of_not_mem (by simp [h, hu])]

theorem autocommitValue?_trim (s : List Char) : autocommitValue? (trim s) = autocommitValue? s := by
  unfold autocommitValue?
  rw [trim_idem]

/-- A statement without `=` assigns nothing. -/
theorem autocommitValue?_normal_of_not_mem (h : '=' ∉ s) : autocommitValue? (normal s) = none := by
  rw [normal, autocommitValue?_trim]
  refine autocommitValue?_of_not_mem fun hmem => ?_
  rcases mem_withoutComments hmem with heq | hcaps
  · exact absurd heq (by decide)
  · exact h ((mem_caps (by decide) rfl).1 hcaps)

/-- Without the end of a comment after it, the first `=` is that of the normal form. -/
theorem autocommitValue?_normal (ha : '=' ∉ a) (hb : ';' ∉ b) (hclose : ¬ ['*', '/'] <:+: b) :
    autocommitValue? (normal (a ++ '=' :: b)) = truthValue? (caps (trim b)) := by
  have hcaps : ¬ ['*', '/'] <:+: '=' :: caps b := fun h => by
    rcases List.infix_cons_iff.1 h with hp | h
    · exact absurd (List.cons_prefix_cons.1 hp).1 (by decide)
    · exact hclose (pair_infix_caps (by decide) (by decide) rfl rfl h)
  have ha' : '=' ∉ withoutComments (caps a) := fun h => by
    rcases mem_withoutComments h with heq | hmem
    · exact absurd heq (by decide)
    · exact ha ((mem_caps (by decide) rfl).1 hmem)
  have hb' : ';' ∉ caps b := fun h => hb ((mem_caps (by decide) rfl).1 h)
  rw [normal, autocommitValue?_trim, caps_append_cons (by decide) rfl,
    withoutComments_append_open rfl (by decide) hcaps, autocommitValue?_append_cons ha',
    beforeFirst_of_not_mem hb', trim_caps]

/-! ## Where the two readings differ -/

/-- The value is borrowed: nothing is assigned before the first `;`, but something after it. -/
def Borrows (sql : List Char) : Prop :=
  ∃ t u, sql = t ++ ';' :: u ∧ ';' ∉ t ∧ '=' ∉ t ∧ autocommitValue? u ≠ none

/-- The value of the statement is hidden in the text: after the first `=` a comment ends, or an `S` is spelt `ſ`. -/
def Hides (sql s : List Char) : Prop :=
  ∃ a b, beforeFirst ';' sql = a ++ '=' :: b ∧ '=' ∉ a ∧ (['*', '/'] <:+: b ∨ 'ſ' ∈ b) ∧ autocommitValue? s ≠ none

theorem not_mem_of_beforeFirst (hf : beforeFirst ';' sql = a ++ '=' :: b) : ';' ∉ b := fun h =>
  (beforeFirst_cases ';' sql).1 (by rw [hf]; simp [h])

/-- What the text assigns stands between the first `=` and the first `;`, where these come in this order. -/
theorem autocommitValue?_of_split (hf : beforeFirst ';' sql = a ++ '=' :: b) (ha : '=' ∉ a) :
    autocommitValue? sql = truthValue? (trim b) := by
  have hb := not_mem_of_beforeFirst hf
  rcases (beforeFirst_cases ';' sql).2 with hsql | ⟨u, hsql⟩
  · rw [hsql, hf, autocommitValue?_append_cons ha, beforeFirst_of_not_mem hb]
  · rw [hsql, hf, List.append_assoc, List.cons_append, autocommitValue?_append_cons ha, beforeFirst_append_cons hb]

theorem truthValue?_of_hidden (h : ['*', '/'] <:+: b ∨ 'ſ' ∈ b) : truthValue? (trim b) = none := by
  rcases h with h | h
  · exact truthValue?_of_mem (mem_trim (h.mem List.mem_cons_self) rfl) (by decide)
  · exact truthValue?_of_mem (mem_trim h rfl) (by decide)

/-- What follows the first `;` is read only if nothing before it is assigned. -/
theorem autocommitValue?_semicolon (h : '=' ∉ t) (u : List Char) :
    autocommitValue? (t ++ ';' :: u) = autocommitValue? u := by
  rw [List.append_cons]
  exact autocommitValue?_append (by simp [h]) u

theorem of_borrows (h : Borrows sql) :
    autocommitValue? sql ≠ none ∧ autocommitValue? (normal (beforeFirst ';' sql)) = none := by
  obtain ⟨t, u, rfl, ht, hassign, hu⟩ := h
  rw [autocommitValue?_semicolon hassign, beforeFirst_append_cons ht]
  exact ⟨hu, autocommitValue?_normal_of_not_mem hassign⟩

theorem of_hides (h : Hides sql s) : autocommitValue? sql = none ∧ autocommitValue? s ≠ none := by
  obtain ⟨a, b, hf, ha, hb, hvalue⟩ := h
  exact ⟨(autocommitValue?_of_split hf ha).trans (truthValue?_of_hidden hb), hvalue⟩

theorem autocommitValue?_eq_normal (hborrows : ¬ Borrows sql) (hhides : ¬ Hides sql (normal (beforeFirst ';' sql))) :
    autocommitValue? sql = autocommitValue? (normal (beforeFirst ';' sql)) := by
  obtain ⟨hcut, hsql⟩ := beforeFirst_cases ';' sql
  by_cases hassign : '=' ∈ beforeFirst ';' sql
  · obtain ⟨a, b, hf, ha⟩ := List.eq_append_cons_of_mem hassign
    rw [autocommitValue?_of_split hf ha]
    by_cases hbad : ['*', '/'] <:+: b ∨ 'ſ' ∈ b
    · rw [truthValue?_of_hidden hbad]
      by_contra hvalue
      exact hhides ⟨a, b, hf, ha, hbad, Ne.symm hvalue⟩
    · obtain ⟨hclose, hlong⟩ := not_or.1 hbad
      rw [hf, autocommitValue?_normal ha (not_mem_of_beforeFirst hf) hclose,
        truthValue?_caps fun h => hlong (mem_of_mem_trim h)]
  · -- the statement assigns nothing, and neither does the text if nothing follows its first `;`
    rw [autocommitValue?_normal_of_not_mem hassign]
    rcases hsql with hsql | ⟨u, hsql⟩
    · rw [hsql]
      exact autocommitValue?_of_not_mem hassign
    · by_contra hvalue
      rw [hsql, autocommitValue?_semicolon hassign] at hvalue
      exact hborrows ⟨_, u, hsql, hcut, hassign, hvalue⟩

/-- A text that assigns the autocommit mode has a first statement, and both assign the same value, unless the text
borrows one, which the statement lacks, or hides that of the statement. -/
theorem value_of_sets (h : setsAutocommit sql = true) : ∃ s, first? sql = some s ∧
    (autocommitValue? sql = autocommitValue? s ↔ ¬ Borrows sql ∧ ¬ Hides sql s) ∧
    (Borrows sql → autocommitValue? sql ≠ none ∧ autocommitValue? s = none) ∧
    (Hides sql s → autocommitValue? sql = none ∧ autocommitValue? s ≠ none) := by
  have hblank : ¬ Blank sql := fun hblank => by
    rw [setsAutocommit, first?_of_blank hblank] at h
    cases h
  refine ⟨_, first?_of_not_blank hblank, ⟨fun heq => ⟨fun hb => ?_, fun hh => ?_⟩, fun ⟨hb, hh⟩ => ?_⟩, of_borrows,
    of_hides⟩
  · exact (of_borrows hb).1 (heq.trans (of_borrows hb).2)
  · exact (of_hides hh).2 (heq.symm.trans (of_hides hh).1)
  · exact autocommitValue?_eq_normal hb hh

/-- The text assigns no value, but one is read from the statement after it. -/
theorem borrowed_autocommit :
    setsAutocommit "set autocommit; x=0".toList = true ∧
      first? "set autocommit; x=0".toList = some "SET AUTOCOMMIT".toList ∧
      autocommitValue? "set autocommit; x=0".toList = some false ∧ autocommitValue? "SET AUTOCOMMIT".toList = none := by
  decide +kernel

/-- A comment before the value hides it. -/
theorem value_of_sets_hidden :
    setsAutocommit "set autocommit = /* on */ 1".toList = true ∧
      autocommitValue? "set autocommit = /* on */ 1".toList = none ∧
      autocommitValue? "SET AUTOCOMMIT = 1".toList ≠ none := by
  have hsets : setsAutocommit "set autocommit = /* on */ 1".toList = true := by decide +kernel
  obtain ⟨s, hs, -, -, hhides⟩ := value_of_sets hsets
  have hfirst : first? "set autocommit = /* on */ 1".toList = some "SET AUTOCOMMIT = 1".toList := by decide +kernel
  obtain rfl := Option.some_inj.1 (hs.symm.trans hfirst)
  refine ⟨hsets, hhides ⟨"set autocommit ".toList, " /* on */ 1".toList, by decide +kernel, by decide, .inl ?_, ?_⟩⟩
  · exact ⟨" /* on ".toList, " 1".toList, by decide +kernel⟩
  · decide +kernel

end ReplicaRouter.Statement
