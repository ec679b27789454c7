import ReplicaRouter.Proofs.Spacing
import ReplicaRouter.Text.Case
/-
Texts in capitals, with their blanks collapsed. Neither step makes or loses a mark (a blank, `*`, `/`, `;` or `=`), so a
text may be cut at marks before or after them, and letters of the other case make no difference.
Main statements: `eq_of_mem_upperOf`, `caps_append_cons`, `caps_append`, `trim_caps`, `caps_map_asciiLower`, and
`prefix_caps_iff` and `caps_eq_iff` for words.
-/
namespace ReplicaRouter.Text

variable {s t ws ws' : List Char} {c d x y : Char}

/-! ## Letter case -/

/-- The codes of the marks: blanks, and what comments, statements and assignments are told by. -/
def markCodes : List Nat :=
  [9, 10, 11, 12, 13, 0x20, 0x85, 0xA0, 0x1680, 0x2000, 0x2001, 0x2002, 0x2003, 0x2004, 0x2005, 0x2006, 0x2007, 0x2008,
    0x2009, 0x200A, 0x2028, 0x2029, 0x202F, 0x205F, 0x3000, 0x2A, 0x2F, 0x3B, 0x3D]

/-- A blank, or one of `*`, `/`, `;` and `=`. -/
def IsMark (c : Char) : Prop := c.toNat ∈ markCodes

instance : DecidablePred IsMark := fun c => inferInstanceAs (Decidable (c.toNat ∈ markCodes))

/-- None of the characters is a mark. -/
def Unmarked (w : List Char) : Prop := ∀ c ∈ w, ¬ IsMark c

instance {w : List Char} : Decidable (Unmarked w) := decidable_of_iff (w.all (¬ IsMark ·) = true) (by simp [Unmarked])

theorem isMark_of_blank (h : isBlank c = true) : IsMark c := by
  unfold IsMark markCodes
  simp only [isBlank, Bool.or_eq_true, Bool.and_eq_true, decide_eq_true_eq, beq_iff_eq] at h
  simp only [List.mem_cons, List.not_mem_nil, or_false]
  omega

theorem Unmarked.not_blank {w : List Char} (h : Unmarked w) : ∀ c ∈ w, isBlank c = false := fun c hc =>
  Bool.eq_false_iff.2 fun hblank => h c hc (isMark_of_blank hblank)

theorem upperOf_ofNat : ∀ n ∈ markCodes, upperOf (Char.ofNat n) = [Char.ofNat n] := by decide +kernel

/-- A mark is its own upper case. -/
theorem upperOf_of_mark (h : IsMark c) : upperOf c = [c] := by
  have hc := upperOf_ofNat _ h
  rwa [Char.ofNat_toNat] at hc

/-- The ASCII letters from this code on. -/
def letters (first : Nat) : List Char := (List.range' first 26).map Char.ofNat

theorem mem_letters {first : Nat} (hle : first ≤ c.toNat) (hlt : c.toNat < first + 26) : c ∈ letters first :=
  List.mem_map.2 ⟨c.toNat, List.mem_range'_1.2 ⟨hle, hlt⟩, Char.ofNat_toNat c⟩

theorem forall_letters {first : Nat} {P : Char → Prop} (h : ∀ n ∈ List.range' first 26, P (Char.ofNat n)) :
    ∀ c ∈ letters first, P c :=
  List.forall_mem_map.2 h

theorem toNat_ofNat {n : Nat} (h : (Char.ofNat n).toNat ≠ 0) : (Char.ofNat n).toNat = n := by
  by_cases hn : n.isValidChar
  · have hchar : Char.ofNat n = Char.ofNatAux n hn := dif_pos hn
    rw [hchar]
    rfl
  · have hzero : Char.ofNat n = Char.ofNat 0 := dif_neg hn
    exact absurd (congrArg Char.toNat hzero) h

/-- A run of the table leads from a character to the one that is the shift away. -/
structure CaseRun.Maps (run : CaseRun) (c d : Char) : Prop where
  listed : run ∈ upperRuns
  covers : run.covers c.toNat = true
  back : d.toNat ≠ 0 → ((d.toNat : Int) - run.shift).toNat = c.toNat

/-- Where the capitals of a character come from. -/
theorem upperOf_cases (c : Char) : upperOf c = [c] ∨
    (c ∈ letters 97 ∧ upperOf c = [Char.ofNat (c.toNat - 32)]) ∨
    (∃ e ∈ upperTexts, upperOf c = e.2.map Char.ofNat) ∨
    ∃ run d, CaseRun.Maps run c d ∧ upperOf c = [d] := by
  unfold upperOf
  split
  · split
    · next hc => exact .inr (.inl ⟨mem_letters hc.1 (Nat.lt_succ_of_le hc.2), rfl⟩)
    · exact .inl rfl
  · split
    · next e text he => exact .inr (.inr (.inl ⟨(e, text), List.mem_of_find?_eq_some he, rfl⟩))
    · split
      · next run hrun =>
        -- the shift may lead to no character at all, which is then taken for the one with the code 0
        have hcovers := List.find?_some hrun
        refine .inr (.inr (.inr ⟨run, _, ⟨List.mem_of_find?_eq_some hrun, hcovers, fun hd => ?_⟩, rfl⟩))
        have hcode := toNat_ofNat hd
        rw [hcode] at hd ⊢
        rw [Int.ofNat_eq_natCast] at *
        omega
      · exact .inl rfl

/-- Where a mark comes up in capitals, it stood there before. -/
theorem eq_of_mem_upperOf (h : d ∈ upperOf c) (hd : IsMark d) : c = d := by
  rcases upperOf_cases c with hc | ⟨hc, hupper⟩ | ⟨e, he, hupper⟩ | ⟨run, x, hmaps, hupper⟩
  · rw [hc] at h
    exact (List.mem_singleton.1 h).symm
  · have hlower : ∀ c ∈ letters 97, ¬ IsMark (Char.ofNat (c.toNat - 32)) := forall_letters (by decide +kernel)
    rw [hupper, List.mem_singleton] at h
    rw [h] at hd
    exact absurd hd (hlower c hc)
  · -- no mark is in the tables, entry by entry
    have htexts : ∀ e ∈ upperTexts, ∀ n ∈ e.2, ¬ IsMark (Char.ofNat n) := by decide +kernel
    rw [hupper] at h
    obtain ⟨n, hn, rfl⟩ := List.mem_map.1 h
    exact absurd hd (htexts e he n hn)
  · -- no run leads to a mark: its shift taken back from one is no code that the run covers
    have hruns : ∀ run ∈ upperRuns, ∀ n ∈ markCodes, n ≠ 0 ∧ run.covers ((n : Int) - run.shift).toNat = false := by
      decide +kernel
    rw [hupper, List.mem_singleton] at h
    obtain ⟨hpos, hcovers⟩ := hruns run hmaps.listed d.toNat hd
    subst h
    rw [hmaps.back hpos, hmaps.covers] at hcovers
    cases hcovers

theorem upperOf_ne_nil (c : Char) : upperOf c ≠ [] := by
  rcases upperOf_cases c with hc | ⟨-, hupper⟩ | ⟨e, he, hupper⟩ | ⟨run, x, -, hupper⟩
  · exact hc ▸ List.cons_ne_nil _ _
  · exact hupper ▸ List.cons_ne_nil _ _
  · have htexts : ∀ e ∈ upperTexts, e.2 ≠ [] := by decide +kernel
    rw [hupper]
    exact fun h => htexts e he (List.map_eq_nil_iff.1 h)
  · exact hupper ▸ List.cons_ne_nil _ _

theorem isBlank_of_mem_upperOf (h : d ∈ upperOf c) : isBlank d = isBlank c := by
  cases hd : isBlank d with
  | true => rw [eq_of_mem_upperOf h (isMark_of_blank hd), hd]
  | false =>
    refine (Bool.eq_false_iff.2 fun hc => ?_).symm
    rw [upperOf_of_mark (isMark_of_blank hc), List.mem_singleton] at h
    rw [h, hc] at hd
    cases hd

theorem upper_append (s t : List Char) : upper (s ++ t) = upper s ++ upper t := List.flatMap_append

theorem upper_cons (c : Char) (s : List Char) : upper (c :: s) = upperOf c ++ upper s := rfl

theorem mem_upper_of_mark (hx : IsMark x) : x ∈ upper s ↔ x ∈ s := by
  unfold upper
  rw [List.mem_flatMap]
  constructor
  · rintro ⟨c, hc, h⟩
    rwa [← eq_of_mem_upperOf h hx]
  · exact fun h => ⟨x, h, by rw [upperOf_of_mark hx]; exact List.mem_singleton_self x⟩

theorem upper_of_blank (h : Blank ws) : upper ws = ws := by
  induction ws with
  | nil => rfl
  | cons c ws ih =>
    rw [upper_cons, upperOf_of_mark (isMark_of_blank (h c List.mem_cons_self)),
      ih fun d hd => h d (List.mem_cons_of_mem c hd)]
    rfl

theorem trimStart_upper (s : List Char) : trimStart (upper s) = upper (trimStart s) := by
  induction s with
  | nil => rfl
  | cons c s ih =>
    rw [upper_cons]
    cases hc : isBlank c with
    | true =>
      rw [upperOf_of_mark (isMark_of_blank hc), trimStart_cons_of_blank hc]
      exact (trimStart_cons_of_blank hc).trans ih
    | false =>
      rw [trimStart_cons_of_not_blank hc]
      obtain ⟨d, rest, hd⟩ := List.exists_cons_of_ne_nil (upperOf_ne_nil c)
      have hblank : isBlank d = false := by
        rw [isBlank_of_mem_upperOf (c := c) (by rw [hd]; exact List.mem_cons_self), hc]
      rw [upper_cons, hd]
      exact trimStart_cons_of_not_blank hblank

/-- Two marks that stand side by side in capitals stood so before. -/
theorem pair_infix_upper (hx : IsMark x) (hy : IsMark y) (h : [x, y] <:+: upper s) : [x, y] <:+: s := by
  -- marks come from marks, and everything else is skipped
  have hskip : ∀ {u t : List Char}, x ∉ u → [x, y] <:+: u ++ t → [x, y] <:+: t := by
    intro u t hu ht
    induction u with
    | nil => exact ht
    | cons c u ih =>
      rcases List.infix_cons_iff.1 ht with hp | ht
      · exact absurd (List.cons_prefix_cons.1 hp).1 (List.ne_of_not_mem_cons hu)
      · exact ih (List.not_mem_of_not_mem_cons hu) ht
  induction s with
  | nil => exact h
  | cons c s ih =>
    refine List.infix_cons_iff.2 ?_
    rw [upper_cons] at h
    by_cases hxc : x ∈ upperOf c
    · obtain rfl := eq_of_mem_upperOf hxc hx
      rw [upperOf_of_mark hx] at h
      rcases List.infix_cons_iff.1 h with hp | h
      · left
        have hnext : [y] <+: upper s := (List.cons_prefix_cons.1 hp).2
        refine List.cons_prefix_cons.2 ⟨rfl, ?_⟩
        cases s with
        | nil => exact hnext
        | cons d s =>
          obtain ⟨e, rest, he⟩ := List.exists_cons_of_ne_nil (upperOf_ne_nil d)
          rw [upper_cons, he] at hnext
          have hye : y ∈ upperOf d := by
            rw [he, (List.cons_prefix_cons.1 hnext).1]
            exact List.mem_cons_self
          exact List.cons_prefix_cons.2 ⟨(eq_of_mem_upperOf hye hy).symm, List.nil_prefix⟩
      · exact .inr (ih h)
    · exact .inr (ih (hskip hxc h))

/-! ### ASCII letters -/

theorem asciiLower_cases (c : Char) : asciiLower c = c ∨ c ∈ letters 65 := by
  unfold asciiLower
  split
  · next h => exact .inr (mem_letters h.1 (Nat.lt_succ_of_le h.2))
  · exact .inl rfl

theorem upperOf_asciiLower (c : Char) : upperOf (asciiLower c) = upperOf c := by
  have hcapital : ∀ c ∈ letters 65, upperOf (asciiLower c) = upperOf c := forall_letters (by decide +kernel)
  rcases asciiLower_cases c with h | h
  · rw [h]
  · exact hcapital c h

theorem isBlank_asciiLower (c : Char) : isBlank (asciiLower c) = isBlank c := by
  have hcapital : ∀ c ∈ letters 65, isBlank (asciiLower c) = isBlank c := forall_letters (by decide +kernel)
  rcases asciiLower_cases c with h | h
  · rw [h]
  · exact hcapital c h

theorem upper_map_asciiLower (s : List Char) : upper (s.map asciiLower) = upper s := by
  unfold upper
  rw [List.flatMap_map]
  exact congrArg (s.flatMap ·) (funext upperOf_asciiLower)

theorem collapseAfter_map_asciiLower (b : Bool) (s : List Char) :
    collapseAfter b (s.map asciiLower) = (collapseAfter b s).map asciiLower := by
  induction s generalizing b with
  | nil => rfl
  | cons c s ih =>
    rw [List.map_cons, collapseAfter, collapseAfter, isBlank_asciiLower]
    cases hc : isBlank c with
    | true =>
      cases b with
      | true => exact ih true
      | false => exact congrArg (' ' :: ·) (ih true)
    | false => exact congrArg (asciiLower c :: ·) (ih false)

theorem beforeFirst_map_asciiLower (hx : IsMark x) (s : List Char) :
    beforeFirst x (s.map asciiLower) = (beforeFirst x s).map asciiLower := by
  have hne : ∀ c, (asciiLower c != x) = (c != x) := by
    intro c
    have hcapital : ∀ c ∈ letters 65, ¬ IsMark (asciiLower c) ∧ ¬ IsMark c := forall_letters (by decide +kernel)
    rcases asciiLower_cases c with h | h
    · rw [h]
    · obtain ⟨hlower, hupper⟩ := hcapital c h
      have hlower' : asciiLower c ≠ x := fun heq => hlower (by rwa [heq])
      have hupper' : c ≠ x := fun heq => hupper (by rwa [heq])
      rw [bne_iff_ne.2 hlower', bne_iff_ne.2 hupper']
  unfold beforeFirst
  rw [List.takeWhile_map]
  exact congrArg (·.map asciiLower) (congrArg (s.takeWhile ·) (funext hne))

/-! ## Both together -/

/-- The text in capitals, its blanks collapsed. -/
def caps (s : List Char) : List Char := upper (collapse s)

theorem caps_append_cons (hx : IsMark x) (h : isBlank x = false) : caps (s ++ x :: t) = caps s ++ x :: caps t := by
  unfold caps
  rw [collapse_append_cons h, upper_append, upper_cons, upperOf_of_mark hx]
  rfl

theorem caps_cons (hx : IsMark x) (h : isBlank x = false) : caps (x :: t) = x :: caps t :=
  caps_append_cons (s := []) hx h

theorem trimStart_caps (s : List Char) : trimStart (caps s) = caps (trimStart s) := by
  unfold caps
  rw [trimStart_upper]
  exact congrArg upper (trimStart_collapseAfter false s)

theorem caps_append_blank (s : List Char) (h : Blank ws) : ∃ ws', Blank ws' ∧ caps (s ++ ws) = caps s ++ ws' := by
  refine ⟨_, blank_collapseAfter (endsBlank false s) h, ?_⟩
  unfold caps collapse
  rw [collapseAfter_append, upper_append, upper_of_blank (blank_collapseAfter _ h)]

theorem caps_blank_append (s : List Char) (h : Blank ws) :
    ∃ ws', Blank ws' ∧ caps (ws ++ s) = ws' ++ caps (trimStart s) := by
  obtain ⟨ws', hws', hcaps⟩ := exists_trimStart (caps (ws ++ s))
  rw [trimStart_caps, trimStart_append h] at hcaps
  exact ⟨ws', hws', hcaps⟩

theorem caps_between (h : Blank ws) (h' : Blank ws') (hne : ws ≠ []) (hne' : ws' ≠ []) :
    caps (s ++ (ws ++ t)) = caps (s ++ (ws' ++ t)) :=
  congrArg upper (collapse_between h h' hne hne')

theorem caps_append (hs : trimEnd s = s) : caps (s ++ t) = caps s ++ caps t := by
  unfold caps
  rw [collapse_append hs, upper_append]

theorem caps_blank_cons (h : Blank ws) (hne : ws ≠ []) : caps (ws ++ t) = ' ' :: caps (trimStart t) := by
  unfold caps
  rw [collapse_blank_append h hne, upper_cons]
  rfl

theorem trimEnd_caps (s : List Char) : trimEnd (caps s) = caps (trimEnd s) := by
  have htrimmed : trimEnd (caps (trimEnd s)) = caps (trimEnd s) := by
    rcases eq_or_ne (trimEnd s) [] with hnil | hne
    · rw [hnil]
      rfl
    · -- the last character may have several capitals, of which the last one is no blank either
      obtain ⟨r, c, hr, hc⟩ := exists_of_trimEnd (trimEnd_trimEnd s) hne
      obtain ⟨u, d, hd⟩ := (List.eq_nil_or_concat (upperOf c)).resolve_left (upperOf_ne_nil c)
      rw [List.concat_eq_append] at hd
      have hblank : isBlank d = false := (isBlank_of_mem_upperOf (by rw [hd]; simp)).trans hc
      have hcaps : caps (r ++ [c]) = (upper (collapse r) ++ u) ++ [d] := by
        unfold caps
        rw [collapse_append_cons hc, upper_append, upper_cons, hd, List.append_assoc, List.append_assoc]
        rfl
      rw [hr, hcaps]
      exact trimEnd_of_not_blank hblank
  obtain ⟨ws, hws, hs⟩ := exists_trimEnd s
  obtain ⟨ws', hws', hcaps⟩ := caps_append_blank (trimEnd s) hws
  rw [← hs] at hcaps
  rw [hcaps, trimEnd_append hws', htrimmed]

theorem trim_caps (s : List Char) : trim (caps s) = caps (trim s) := by
  rw [trim, trimStart_caps, trimEnd_caps, trim]

/-! ### Words -/

section Words

variable {w : List Char}

/-- Words are told apart from what follows them before and after blanks are collapsed. -/
theorem prefix_caps_iff (hw : ∀ c ∈ w, isBlank c = false) : w <+: caps s ↔ w <+: upper s := by
  unfold caps collapse
  induction s generalizing w with
  | nil => exact Iff.rfl
  | cons c s ih =>
    rw [collapseAfter, upper_cons]
    cases hc : isBlank c with
    | true =>
      rw [if_pos rfl, if_neg Bool.false_ne_true, upperOf_of_mark (isMark_of_blank hc)]
      cases w with
      | nil => exact iff_of_true List.nil_prefix List.nil_prefix
      | cons d w =>
        -- a word has no blank to match this one with
        have hd := hw d List.mem_cons_self
        refine iff_of_false (fun h => ?_) fun h => ?_
        · rw [(List.cons_prefix_cons.1 h).1] at hd
          cases hd
        · rw [(List.cons_prefix_cons.1 h).1, hc] at hd
          cases hd
    | false =>
      rw [if_neg Bool.false_ne_true, upper_cons]
      -- the word goes on after the capitals of this character, or it ends within them
      by_cases hp : upperOf c <+: w
      · obtain ⟨w, rfl⟩ := hp
        rw [List.prefix_append_right_inj, List.prefix_append_right_inj]
        exact ih fun d hd => hw d (List.mem_append_right _ hd)
      · have hinside : ∀ t, w <+: upperOf c ++ t → w <+: upperOf c := fun t h =>
          (List.prefix_or_prefix_of_prefix h (List.prefix_append _ t)).resolve_right hp
        exact ⟨fun h => (hinside _ h).trans (List.prefix_append _ _),
          fun h => (hinside _ h).trans (List.prefix_append _ _)⟩

theorem collapse_of_not_blank (h : ∀ c ∈ s, isBlank c = false) : collapse s = s := by
  unfold collapse
  induction s with
  | nil => rfl
  | cons c s ih =>
    obtain ⟨hc, hs⟩ := List.forall_mem_cons.1 h
    rw [collapseAfter, hc, if_neg Bool.false_ne_true, ih hs]

theorem space_mem_collapse (h : ¬ ∀ c ∈ s, isBlank c = false) : ' ' ∈ collapse s := by
  unfold collapse
  induction s with
  | nil => exact absurd nofun h
  | cons c s ih =>
    rw [collapseAfter]
    cases hc : isBlank c with
    | true => exact List.mem_cons_self
    | false => exact List.mem_cons_of_mem c (ih fun hs => h (List.forall_mem_cons.2 ⟨hc, hs⟩))

/-- A word comes up in capitals just if the text is that word in another case. -/
theorem caps_eq_iff (hw : ∀ c ∈ w, isBlank c = false) : caps s = w ↔ upper s = w := by
  have hspelt : (∀ c ∈ s, isBlank c = false) → caps s = upper s := fun h => congrArg upper (collapse_of_not_blank h)
  constructor
  · rintro rfl
    refine (hspelt ?_).symm
    by_contra hblank
    have hspace : ' ' ∈ caps s := (mem_upper_of_mark (by decide)).2 (space_mem_collapse hblank)
    cases hw ' ' hspace
  · rintro rfl
    refine hspelt fun c hc => Bool.eq_false_iff.2 fun hblank => ?_
    have hmem : c ∈ upper s := (mem_upper_of_mark (isMark_of_blank hblank)).2 hc
    rw [hw c hmem] at hblank
    cases hblank

end Words

theorem caps_map_asciiLower (s : List Char) : caps (s.map asciiLower) = caps s := by
  unfold caps collapse
  rw [collapseAfter_map_asciiLower, upper_map_asciiLower]

theorem pair_infix_caps (hx : IsMark x) (hy : IsMark y) (hx' : isBlank x = false) (hy' : isBlank y = false)
    (h : [x, y] <:+: caps s) : [x, y] <:+: s :=
  pair_infix_collapseAfter false hx' hy' (pair_infix_upper hx hy h)

theorem mem_caps (hx : IsMark x) (h : isBlank x = false) : x ∈ caps s ↔ x ∈ s :=
  (mem_upper_of_mark hx).trans (mem_collapseAfter false h)

end ReplicaRouter.Text
