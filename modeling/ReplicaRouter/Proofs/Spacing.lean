import Mathlib.Data.List.DropRight
import Mathlib.Data.List.Infix
import ReplicaRouter.Text.Blank
/-
Blanks in a text: those at its ends, and the runs of them inside that collapse to one space. Cutting a text where it has
no blank, or where it does not end with one, may come before collapsing or after.
Main statements: `trim_pad`, `trim_append`, `collapse_append_cons`, `collapse_between`, `beforeFirst_collapseAfter`.
-/
namespace ReplicaRouter.Text

variable {s t ws ws' : List Char} {c x y : Char}

/-! ## Blanks at the ends -/

/-- All of the text is blank. -/
def Blank (ws : List Char) : Prop := ∀ c ∈ ws, isBlank c = true

instance : Decidable (Blank ws) := decidable_of_iff (ws.all isBlank = true) List.all_eq_true

theorem Blank.append (h : Blank ws) (h' : Blank ws') : Blank (ws ++ ws') := fun c hc =>
  (List.mem_append.1 hc).elim (h c) (h' c)

theorem blank_nil : Blank [] := nofun

theorem blank_space : Blank [' '] := by
  intro c hc
  rw [List.mem_singleton.1 hc]
  rfl

theorem Blank.not_mem (hx : isBlank x = false) (h : Blank ws) : x ∉ ws := fun hmem => by
  rw [h x hmem] at hx
  cases hx

theorem trimStart_cons_of_blank (h : isBlank c = true) : trimStart (c :: s) = trimStart s :=
  List.dropWhile_cons_of_pos h

theorem trimStart_cons_of_not_blank (h : isBlank c = false) : trimStart (c :: s) = c :: s :=
  List.dropWhile_cons_of_neg (ne_true_of_eq_false h)

theorem trimStart_append (h : Blank ws) : trimStart (ws ++ s) = trimStart s := by
  unfold trimStart
  rw [List.dropWhile_append, List.dropWhile_eq_nil_iff.2 h]
  rfl

/-- What follows something that is not blank is not trimmed at the start. -/
theorem trimStart_append_cons (h : isBlank c = false) : trimStart (s ++ c :: t) = trimStart s ++ c :: t := by
  induction s with
  | nil => exact trimStart_cons_of_not_blank h
  | cons d s ih =>
    cases hd : isBlank d with
    | true => rw [trimStart_cons_of_blank hd, List.cons_append, trimStart_cons_of_blank hd, ih]
    | false => rw [trimStart_cons_of_not_blank hd, List.cons_append, trimStart_cons_of_not_blank hd]

theorem trimEnd_append (h : Blank ws) : trimEnd (s ++ ws) = trimEnd s := by
  unfold trimEnd
  rw [List.reverse_append]
  exact congrArg _ (trimStart_append (s := s.reverse) fun c hc => h c (List.mem_reverse.1 hc))

theorem trimStart_eq_nil_iff : trimStart s = [] ↔ Blank s := List.dropWhile_eq_nil_iff

theorem exists_trimStart (s : List Char) : ∃ ws, Blank ws ∧ s = ws ++ trimStart s :=
  ⟨s.takeWhile isBlank, fun _ hc => List.mem_takeWhile_imp hc, (List.takeWhile_append_dropWhile).symm⟩

theorem exists_trimEnd (s : List Char) : ∃ ws, Blank ws ∧ s = trimEnd s ++ ws :=
  ⟨s.rtakeWhile isBlank, fun _ hc => List.mem_rtakeWhile_imp hc, (List.rdropWhile_append_rtakeWhile).symm⟩

theorem exists_trim (s : List Char) : ∃ ws ws', Blank ws ∧ Blank ws' ∧ s = ws ++ (trim s ++ ws') := by
  obtain ⟨ws, hws, hs⟩ := exists_trimStart s
  obtain ⟨ws', hws', ht⟩ := exists_trimEnd (trimStart s)
  exact ⟨ws, ws', hws, hws', by rw [trim, ← ht, ← hs]⟩

theorem trimEnd_of_not_blank (h : isBlank c = false) : trimEnd (s ++ [c]) = s ++ [c] :=
  List.rdropWhile_concat_neg _ _ _ (ne_true_of_eq_false h)

theorem trimStart_append_blank (h : Blank ws) : ∃ ws', Blank ws' ∧ trimStart (s ++ ws) = trimStart s ++ ws' := by
  unfold trimStart
  rw [List.dropWhile_append]
  split
  · next hs =>
    rw [List.isEmpty_iff.1 hs]
    exact ⟨_, fun c hc => h c ((List.dropWhile_suffix _).mem hc), rfl⟩
  · exact ⟨ws, h, rfl⟩

/-- Blanks at the ends do not matter. -/
theorem trim_pad (h : Blank ws) (h' : Blank ws') : trim (ws ++ (s ++ ws')) = trim s := by
  obtain ⟨ws'', hws, hs⟩ := trimStart_append_blank (s := s) h'
  rw [trim, trimStart_append h, hs, trimEnd_append hws, trim]

theorem trim_blank_append (h : Blank ws) : trim (ws ++ s) = trim s := by rw [trim, trimStart_append h, trim]

theorem trim_idem (s : List Char) : trim (trim s) = trim s := by
  obtain ⟨ws, ws', hws, hws', hs⟩ := exists_trim s
  have h := trim_pad (s := trim s) hws hws'
  rw [← hs] at h
  exact h.symm

theorem trimStart_of_trim (h : trim s = s) : trimStart s = s := by
  have hsuffix : trimStart s <:+ s := List.dropWhile_suffix _
  have hprefix : trimEnd (trimStart s) <+: trimStart s := List.rdropWhile_prefix _ _
  refine hsuffix.eq_of_length_le ?_
  calc s.length = (trimEnd (trimStart s)).length := by rw [← trim, h]
    _ ≤ (trimStart s).length := hprefix.length_le

theorem trimEnd_of_trim (h : trim s = s) : trimEnd s = s := by
  rw [trim, trimStart_of_trim h] at h
  exact h

/-- A text that does not end with a blank is empty or ends with something else. -/
theorem exists_of_trimEnd (h : trimEnd s = s) (hne : s ≠ []) : ∃ r c, s = r ++ [c] ∧ isBlank c = false := by
  refine ⟨s.dropLast, s.getLast hne, (List.dropLast_append_getLast hne).symm, ?_⟩
  exact Bool.eq_false_iff.2 (List.rdropWhile_eq_self_iff.1 h hne)

theorem trimEnd_trimEnd (s : List Char) : trimEnd (trimEnd s) = trimEnd s := List.rdropWhile_idempotent _ _

theorem trimEnd_of_cons (h : trimEnd (c :: s) = c :: s) : trimEnd s = s := by
  refine List.rdropWhile_eq_self_iff.2 fun hne => ?_
  have hlast := List.rdropWhile_eq_self_iff.1 h (List.cons_ne_nil c s)
  rwa [List.getLast_cons hne] at hlast

theorem not_blank_of_trimEnd (h : trimEnd s = s) (hne : s ≠ []) : ¬ Blank s := fun hblank =>
  hne (h ▸ trimEnd_append (s := []) hblank)

theorem trimEnd_append_of_ne (hs : trimEnd s = s) : trimEnd (s ++ t) = s ++ trimEnd t := by
  obtain ⟨ws, hws, ht⟩ := exists_trimEnd t
  have hpad : trimEnd (s ++ t) = trimEnd (s ++ trimEnd t) := by
    conv_lhs => rw [ht, ← List.append_assoc]
    exact trimEnd_append hws
  rw [hpad]
  rcases eq_or_ne (trimEnd t) [] with hnil | hne
  · rw [hnil, List.append_nil, hs]
  · obtain ⟨r, c, hr, hc⟩ := exists_of_trimEnd (trimEnd_trimEnd t) hne
    rw [hr, ← List.append_assoc]
    exact trimEnd_of_not_blank hc

theorem trimEnd_eq_nil_iff : trimEnd s = [] ↔ Blank s := by
  constructor
  · intro h
    obtain ⟨ws, hws, hs⟩ := exists_trimEnd s
    rwa [hs, h]
  · exact fun h => trimEnd_append (s := []) h

theorem trimEnd_prefix_self (s : List Char) : trimEnd s <+: s := List.rdropWhile_prefix _ _

/-- Blanks at the end do not tell what a text starts with, if that does not end with a blank. -/
theorem prefix_trimEnd_iff (hs : trimEnd s = s) : s <+: trimEnd t ↔ s <+: t := by
  constructor
  · exact fun h => h.trans (trimEnd_prefix_self t)
  · rintro ⟨u, rfl⟩
    rw [trimEnd_append_of_ne hs]
    exact List.prefix_append s _

/-- What is appended to a trimmed text is trimmed at its end only. -/
theorem trim_append (hs : trim s = s) (hne : s ≠ []) : trim (s ++ t) = s ++ trimEnd t := by
  have hstart : s.dropWhile isBlank = s := trimStart_of_trim hs
  have hrest : trimStart (s ++ t) = s ++ t := by
    unfold trimStart
    rw [List.dropWhile_append, hstart, if_neg (by rwa [List.isEmpty_iff])]
  rw [trim, hrest, trimEnd_append_of_ne (trimEnd_of_trim hs)]

theorem mem_of_mem_trim (h : c ∈ trim s) : c ∈ s := by
  obtain ⟨ws, ws', -, -, hs⟩ := exists_trim s
  rw [hs]
  simp [h]

theorem mem_trim (hc : c ∈ s) (h : isBlank c = false) : c ∈ trim s := by
  obtain ⟨ws, ws', hws, hws', hs⟩ := exists_trim s
  rw [hs] at hc
  simpa [hws.not_mem h, hws'.not_mem h] using hc

/-! ## Cutting at a separator -/

theorem beforeFirst_append_of_not_mem (h : x ∉ s) (t : List Char) : beforeFirst x (s ++ t) = s ++ beforeFirst x t :=
  List.takeWhile_append_of_pos fun _ hc => bne_iff_ne.2 fun heq => h (heq ▸ hc)

theorem beforeFirst_of_not_mem (h : x ∉ s) : beforeFirst x s = s := by
  have hs := beforeFirst_append_of_not_mem h []
  rwa [List.append_nil, show beforeFirst x [] = [] from rfl, List.append_nil] at hs

theorem beforeFirst_append_cons (h : x ∉ s) (t : List Char) : beforeFirst x (s ++ x :: t) = s := by
  rw [beforeFirst_append_of_not_mem h, beforeFirst, List.takeWhile_cons_of_neg (by simp), List.append_nil]

theorem beforeFirst_append_of_mem (h : x ∈ s) (t : List Char) : beforeFirst x (s ++ t) = beforeFirst x s := by
  obtain ⟨a, b, rfl, ha⟩ := List.eq_append_cons_of_mem h
  rw [List.append_assoc, List.cons_append, beforeFirst_append_cons ha, beforeFirst_append_cons ha]

theorem beforeFirst_cases (x : Char) (s : List Char) :
    x ∉ beforeFirst x s ∧ (s = beforeFirst x s ∨ ∃ u, s = beforeFirst x s ++ x :: u) := by
  by_cases h : x ∈ s
  · obtain ⟨t, u, rfl, ht⟩ := List.eq_append_cons_of_mem h
    rw [beforeFirst_append_cons ht]
    exact ⟨ht, .inr ⟨u, rfl⟩⟩
  · rw [beforeFirst_of_not_mem h]
    exact ⟨h, .inl rfl⟩

theorem cutOnce_append_cons (h : x ∉ s) (t : List Char) : cutOnce x (s ++ x :: t) = some (s, t) := by
  induction s with
  | nil => exact if_pos rfl
  | cons c s ih =>
    rw [List.cons_append, cutOnce, if_neg (List.ne_of_not_mem_cons h).symm, ih (List.not_mem_of_not_mem_cons h)]
    rfl

theorem cutOnce_of_not_mem (h : x ∉ s) : cutOnce x s = none := by
  induction s with
  | nil => rfl
  | cons c s ih =>
    rw [cutOnce, if_neg (List.ne_of_not_mem_cons h).symm, ih (List.not_mem_of_not_mem_cons h)]
    rfl

/-! ## Runs of blanks -/

/-- Whether a blank comes last, given whether one came before the text. -/
def endsBlank (blankBefore : Bool) (s : List Char) : Bool := s.foldl (fun _ c => isBlank c) blankBefore

theorem collapseAfter_append (b : Bool) (s t : List Char) :
    collapseAfter b (s ++ t) = collapseAfter b s ++ collapseAfter (endsBlank b s) t := by
  induction s generalizing b with
  | nil => rfl
  | cons c s ih =>
    have hlast : endsBlank b (c :: s) = endsBlank (isBlank c) s := rfl
    rw [hlast, List.cons_append, collapseAfter, collapseAfter]
    cases hc : isBlank c with
    | true =>
      cases b with
      | true => exact ih true
      | false => exact congrArg (' ' :: ·) (ih true)
    | false => exact congrArg (c :: ·) (ih false)

theorem collapseAfter_blank (b : Bool) (h : Blank ws) (hne : ws ≠ []) :
    collapseAfter b ws = (if b then [] else [' ']) ∧ endsBlank b ws = true := by
  induction ws generalizing b with
  | nil => exact absurd rfl hne
  | cons c ws ih =>
    have hlast : endsBlank b (c :: ws) = endsBlank (isBlank c) ws := rfl
    rw [hlast, collapseAfter, h c List.mem_cons_self, if_pos rfl]
    rcases eq_or_ne ws [] with rfl | hws
    · exact ⟨rfl, rfl⟩
    · obtain ⟨hcollapse, hends⟩ := ih true (fun d hd => h d (List.mem_cons_of_mem c hd)) hws
      rw [hcollapse]
      exact ⟨rfl, hends⟩

/-- Any blanks between two parts collapse alike. -/
theorem collapse_between (h : Blank ws) (h' : Blank ws') (hne : ws ≠ []) (hne' : ws' ≠ []) :
    collapse (s ++ (ws ++ t)) = collapse (s ++ (ws' ++ t)) := by
  obtain ⟨hcollapse, hends⟩ := collapseAfter_blank (endsBlank false s) h hne
  obtain ⟨hcollapse', hends'⟩ := collapseAfter_blank (endsBlank false s) h' hne'
  unfold collapse
  simp only [collapseAfter_append, hcollapse, hcollapse', hends, hends']

theorem collapse_append_cons (h : isBlank x = false) : collapse (s ++ x :: t) = collapse s ++ x :: collapse t := by
  unfold collapse
  rw [collapseAfter_append, collapseAfter, if_neg (ne_true_of_eq_false h)]

/-- A text that does not end with a blank collapses by itself. -/
theorem collapse_append (hs : trimEnd s = s) : collapse (s ++ t) = collapse s ++ collapse t := by
  rcases eq_or_ne s [] with rfl | hne
  · rfl
  · obtain ⟨r, c, rfl, hc⟩ := exists_of_trimEnd hs hne
    have hone : collapse (r ++ [c]) = collapse r ++ [c] := collapse_append_cons hc
    rw [hone, List.append_assoc, List.append_assoc]
    exact collapse_append_cons hc

theorem collapseAfter_true (s : List Char) : collapseAfter true s = collapse (trimStart s) := by
  induction s with
  | nil => rfl
  | cons c s ih =>
    rw [collapseAfter]
    cases hc : isBlank c with
    | true => rw [trimStart_cons_of_blank hc, if_pos rfl, if_pos rfl, ih]
    | false =>
      rw [trimStart_cons_of_not_blank hc, if_neg Bool.false_ne_true]
      exact (collapse_append_cons (s := []) hc).symm

theorem collapse_blank_append (h : Blank ws) (hne : ws ≠ []) : collapse (ws ++ t) = ' ' :: collapse (trimStart t) := by
  obtain ⟨hcollapse, hends⟩ := collapseAfter_blank false h hne
  unfold collapse
  rw [collapseAfter_append, hcollapse, hends, collapseAfter_true]
  rfl

theorem blank_collapseAfter (b : Bool) (h : Blank ws) : Blank (collapseAfter b ws) := by
  rcases eq_or_ne ws [] with rfl | hne
  · exact blank_nil
  · rw [(collapseAfter_blank b h hne).1]
    cases b with
    | true => exact blank_nil
    | false => exact blank_space

theorem trimStart_collapseAfter (b : Bool) (s : List Char) :
    trimStart (collapseAfter b s) = collapse (trimStart s) := by
  induction s generalizing b with
  | nil => rfl
  | cons c s ih =>
    rw [collapseAfter]
    cases hc : isBlank c with
    | true =>
      rw [trimStart_cons_of_blank hc, if_pos rfl]
      cases b with
      | true => exact ih true
      | false => exact ih true
    | false =>
      rw [trimStart_cons_of_not_blank hc, if_neg Bool.false_ne_true, trimStart_cons_of_not_blank hc]
      exact (collapse_append_cons (s := []) hc).symm

theorem beforeFirst_collapseAfter (b : Bool) (hx : isBlank x = false) (s : List Char) :
    beforeFirst x (collapseAfter b s) = collapseAfter b (beforeFirst x s) := by
  have hspace : (' ' != x) = true := bne_iff_ne.2 (by rintro rfl; cases hx)
  induction s generalizing b with
  | nil => rfl
  | cons c s ih =>
    unfold beforeFirst at ih ⊢
    rw [collapseAfter, List.takeWhile_cons]
    cases hc : isBlank c with
    | true =>
      have hne : (c != x) = true := bne_iff_ne.2 (by rintro rfl; rw [hc] at hx; cases hx)
      rw [if_pos hne, collapseAfter, hc, if_pos rfl, if_pos rfl]
      cases b with
      | true => exact ih true
      | false => exact (List.takeWhile_cons_of_pos (p := (· != x)) hspace).trans (congrArg (' ' :: ·) (ih true))
    | false =>
      rw [if_neg Bool.false_ne_true, List.takeWhile_cons]
      split
      · rw [collapseAfter, hc, if_neg Bool.false_ne_true]
        exact congrArg (c :: ·) (ih false)
      · rfl

/-- Two characters that stand side by side in a collapsed text stood so before, blanks apart. -/
theorem pair_infix_collapseAfter (b : Bool) (hx : isBlank x = false) (hy : isBlank y = false)
    (h : [x, y] <:+: collapseAfter b s) : [x, y] <:+: s := by
  -- a space cannot be the first of the two, so they stand in what follows it
  have hspace : ∀ {t : List Char}, [x, y] <:+: ' ' :: t → [x, y] <:+: t := by
    intro t ht
    rcases List.infix_cons_iff.1 ht with hp | ht
    · cases (List.cons_prefix_cons.1 hp).1
      cases hx
    · exact ht
  induction s generalizing b with
  | nil => exact h
  | cons c s ih =>
    refine List.infix_cons_iff.2 ?_
    rw [collapseAfter] at h
    cases hc : isBlank c with
    | true =>
      rw [hc, if_pos rfl] at h
      cases b with
      | true => exact .inr (ih true h)
      | false => exact .inr (ih true (hspace h))
    | false =>
      rw [hc, if_neg Bool.false_ne_true] at h
      rcases List.infix_cons_iff.1 h with hp | h
      · -- the second character comes next in the text as well: a blank between them would have left a space
        obtain ⟨hxc, hnext⟩ := List.cons_prefix_cons.1 hp
        refine .inl (List.cons_prefix_cons.2 ⟨hxc, ?_⟩)
        cases s with
        | nil => exact hnext
        | cons d s =>
          rw [collapseAfter] at hnext
          cases hd : isBlank d with
          | true =>
            rw [hd, if_pos rfl, if_neg Bool.false_ne_true] at hnext
            cases (List.cons_prefix_cons.1 hnext).1
            cases hy
          | false =>
            rw [hd, if_neg Bool.false_ne_true] at hnext
            exact List.cons_prefix_cons.2 ⟨(List.cons_prefix_cons.1 hnext).1, List.nil_prefix⟩
      · exact .inr (ih false h)

theorem mem_collapseAfter (b : Bool) (hx : isBlank x = false) : x ∈ collapseAfter b s ↔ x ∈ s := by
  have hspace : x ≠ ' ' := by
    rintro rfl
    cases hx
  induction s generalizing b with
  | nil => exact Iff.rfl
  | cons c s ih =>
    rw [collapseAfter]
    cases hc : isBlank c with
    | true =>
      have hne : x ≠ c := by
        rintro rfl
        rw [hc] at hx
        cases hx
      cases b with
      | true => simp [ih, hne]
      | false => simp [ih, hne, hspace]
    | false => simp [ih]

end ReplicaRouter.Text
