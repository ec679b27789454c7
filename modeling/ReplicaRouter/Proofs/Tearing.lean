import ReplicaRouter.Proofs.Classes
/-
Comments against spaces. A comment and the blanks around it become one space, but two comments in a row become two,
while the keywords of two words have one space between them. So a comment counts as a space unless another one follows
it and the two of them stand between the words of a keyword.
Main statement: `Statement.commented_iff`.
-/
namespace ReplicaRouter.Statement

open Text

variable {p c q s t w rest ws : List Char}

/-! ## Comments of a text in capitals -/

theorem caps_eq_cons {x : Char} (hx : IsMark x) (hblank : isBlank x = false) (h : caps s = x :: t) :
    ∃ s', s = x :: s' ∧ caps s' = t := by
  cases s with
  | nil => cases h
  | cons d s =>
    cases hd : isBlank d with
    | true =>
      rw [show d :: s = [d] ++ s from rfl, caps_blank_cons (List.forall_mem_singleton.2 hd) (List.cons_ne_nil _ _)] at h
      cases h
      cases hblank
    | false =>
      have hcaps : caps (d :: s) = upperOf d ++ caps s := by
        unfold caps
        rw [show collapse (d :: s) = d :: collapse s from collapse_append_cons (s := []) hd, upper_cons]
      obtain ⟨e, u, he⟩ := List.exists_cons_of_ne_nil (upperOf_ne_nil d)
      rw [hcaps, he] at h
      obtain ⟨rfl, -⟩ := List.cons.inj h
      obtain rfl := eq_of_mem_upperOf (he ▸ List.mem_cons_self) hx
      rw [upperOf_of_mark hx] at he
      cases he
      exact ⟨s, rfl, (List.cons.inj h).2⟩

theorem caps_comment (ws body rest : List Char) (h : Blank ws) : ∃ ws', Blank ws' ∧
    caps (ws ++ '/' :: '*' :: (body ++ '*' :: '/' :: rest)) =
      ws' ++ '/' :: '*' :: (caps body ++ '*' :: '/' :: caps rest) := by
  obtain ⟨ws', hws', hcaps⟩ := caps_blank_append ('/' :: '*' :: (body ++ '*' :: '/' :: rest)) h
  refine ⟨ws', hws', ?_⟩
  rw [hcaps, trimStart_cons_of_not_blank rfl, caps_cons (by decide) rfl, caps_cons (by decide) rfl,
    caps_append_cons (by decide) rfl, caps_cons (by decide) rfl]

theorem not_infix_caps_close (h : ¬ ['*', '/'] <:+: s) : ¬ ['*', '/'] <:+: caps s := fun hcaps =>
  h (pair_infix_caps (by decide) (by decide) rfl rfl hcaps)

theorem CommentThen.caps (h : CommentThen rest s) : CommentThen (caps rest) (caps s) := by
  obtain ⟨ws, body, hws, hbody, rfl⟩ := h
  obtain ⟨ws', hws', hcaps⟩ := caps_comment ws body rest hws
  exact ⟨ws', Text.caps body, hws', not_infix_caps_close hbody, hcaps⟩

theorem afterClose_isSome (h : ['*', '/'] <:+: s) : ∃ rest, afterClose s = some rest := by
  fun_induction afterClose s with
  | case1 rest => exact ⟨rest, rfl⟩
  | case2 c s hne ih =>
    rcases List.infix_cons_iff.1 h with ⟨r, hp⟩ | h
    · obtain ⟨rfl, rfl⟩ := List.cons.inj hp
      exact absurd rfl (hne _ rfl)
    · exact ih h
  | case3 => exact absurd h (by decide)

/-- A text in capitals has no other comments than the text. -/
theorem exists_of_commentThen_caps {r : List Char} (h : CommentThen r (caps s)) : ∃ rest, CommentThen rest s := by
  obtain ⟨ws, hws, hs⟩ := exists_trimStart s
  obtain ⟨ws', body, hws', -, hcaps⟩ := h
  -- after its blanks the text opens a comment, and somewhere later one is closed
  have hstart : caps (trimStart s) = '/' :: '*' :: (body ++ '*' :: '/' :: r) := by
    rw [← trimStart_caps, hcaps, trimStart_append hws']
    exact trimStart_cons_of_not_blank rfl
  obtain ⟨u, hu, hu'⟩ := caps_eq_cons (by decide) rfl hstart
  obtain ⟨v, rfl, hv⟩ := caps_eq_cons (by decide) rfl hu'
  have hclose : ['*', '/'] <:+: v := by
    by_contra hno
    exact not_infix_caps_close hno ⟨body, r, by rw [hv]; simp⟩
  obtain ⟨rest, hrest⟩ := afterClose_isSome hclose
  obtain ⟨b, hb, rfl⟩ := afterClose_eq_some_iff.1 hrest
  exact ⟨rest, ws, b, hws, hb, by rw [← hu, ← hs]⟩

/-! ## Words before and after a space -/

/-- A word is told from what precedes a space. -/
theorem prefix_append_iff (hw : ' ' ∉ w) (ht : ∀ x ∈ t.head?, x = ' ') : w <+: s ++ t ↔ w <+: s := by
  refine ⟨fun h => ?_, fun h => h.trans (List.prefix_append s t)⟩
  rcases List.prefix_or_prefix_of_prefix h (List.prefix_append s t) with hs | ⟨b, rfl⟩
  · exact hs
  · rw [List.prefix_append_right_inj] at h
    cases b with
    | nil => rw [List.append_nil]
    | cons x b =>
      obtain ⟨u, rfl⟩ := h
      refine absurd ?_ hw
      rw [← ht x rfl]
      simp

/-- Two words with a space between them stand before a space, or on the two sides of it. -/
theorem words_prefix_append_iff (w w' : List Char) (hw : ' ' ∉ w) (hw' : ' ' ∉ w') (ht : ∀ x ∈ t.head?, x = ' ') :
    w ++ ' ' :: w' <+: s ++ t ↔ w ++ ' ' :: w' <+: s ∨ s = w ∧ ' ' :: w' <+: t := by
  constructor
  · intro h
    rcases List.prefix_or_prefix_of_prefix h (List.prefix_append s t) with hs | ⟨b, hb⟩
    · exact .inl hs
    · rw [← hb, List.prefix_append_right_inj] at h
      cases b with
      | nil => exact .inl (by rw [← hb, List.append_nil])
      | cons x b =>
        obtain rfl : x = ' ' := by
          obtain ⟨u, rfl⟩ := h
          exact ht x rfl
        obtain ⟨hfirst, -, hsecond⟩ := (List.append_cons_inj_of_notMem hw hw').1 hb.symm
        rw [hsecond]
        exact .inr ⟨hfirst.symm, h⟩
  · rintro (h | ⟨rfl, h⟩)
    · exact h.trans (List.prefix_append s t)
    · exact (List.prefix_append_right_inj s).2 h

theorem head?_trimEnd_space (s : List Char) : ∀ x ∈ (trimEnd (' ' :: s)).head?, x = ' ' := by
  intro x hx
  obtain ⟨t, ht⟩ := List.head?_eq_some_iff.1 hx
  have hprefix := trimEnd_prefix_self (' ' :: s)
  rw [ht] at hprefix
  exact (List.cons_prefix_cons.1 hprefix).1

section Words

variable {word : String}

theorem startsWith_spaced (hword : ' ' ∉ word.toList) (s t : List Char) :
    startsWith word (s ++ trimEnd (' ' :: t)) = startsWith word s := by
  rw [Bool.eq_iff_iff, startsWith_iff, startsWith_iff]
  exact prefix_append_iff hword (head?_trimEnd_space t)

theorem startsWith_words_iff (first second : String) {both : String}
    (hboth : both.toList = first.toList ++ ' ' :: second.toList)
    (hfirst : Unmarked first.toList) (hsecond : Unmarked second.toList) (hne : second.toList ≠ []) (s t : List Char) :
    startsWith both (s ++ trimEnd (' ' :: t)) = true ↔
      startsWith both s = true ∨ s = first.toList ∧ startsWith second t = true := by
  have hend : trimEnd (' ' :: second.toList) = ' ' :: second.toList := by
    have hlast := hsecond.not_blank _ (List.getLast_mem hne)
    rw [← List.dropLast_append_getLast hne]
    exact trimEnd_of_not_blank (s := ' ' :: second.toList.dropLast) hlast
  have hspace : ∀ {w : List Char}, Unmarked w → ' ' ∉ w := fun hw hmem => nomatch hw.not_blank ' ' hmem
  rw [startsWith_iff, startsWith_iff, startsWith_iff, hboth,
    words_prefix_append_iff _ _ (hspace hfirst) (hspace hsecond) (head?_trimEnd_space t), prefix_trimEnd_iff hend,
    List.cons_prefix_cons, and_iff_right rfl]

theorem startsWith_space (hword : Unmarked word.toList) (hne : word.toList ≠ []) (t : List Char) :
    startsWith word (' ' :: t) = false := by
  rw [← Bool.not_eq_true, startsWith_iff]
  obtain ⟨c, w, hw⟩ := List.exists_cons_of_ne_nil hne
  rw [hw]
  intro h
  have hc := hword.not_blank c (hw ▸ List.mem_cons_self)
  rw [(List.cons_prefix_cons.1 h).1] at hc
  cases hc

theorem isOpener_spaced_iff (s t : List Char) : isOpener (s ++ trimEnd (' ' :: t)) = true ↔
    isOpener s = true ∨ s = "START".toList ∧ startsWith "TRANSACTION" t = true := by
  unfold isOpener
  rw [Bool.or_eq_true, Bool.or_eq_true, startsWith_spaced (by decide),
    startsWith_words_iff "START" "TRANSACTION" rfl (by decide) (by decide) (by decide), or_assoc]

theorem isCloser_spaced (s t : List Char) : isCloser (s ++ trimEnd (' ' :: t)) = isCloser s := by
  unfold isCloser
  rw [startsWith_spaced (by decide), startsWith_spaced (by decide), startsWith_spaced (by decide),
    startsWith_spaced (by decide)]

theorem isSetting_spaced_iff (s t : List Char) :
    isSetting (s ++ trimEnd (' ' :: t)) = true ↔ isSetting s = true ∨ s = "SET".toList ∧ ¬ Blank t := by
  have hblank : [' '] <+: trimEnd (' ' :: t) ↔ ¬ Blank t := by
    have hnil : trimEnd (' ' :: t) = [] ↔ Blank t :=
      trimEnd_eq_nil_iff.trans (List.forall_mem_cons.trans (and_iff_right rfl))
    rw [← hnil]
    cases hspaced : trimEnd (' ' :: t) with
    | nil => simp
    | cons x u =>
      obtain rfl := head?_trimEnd_space t x (by rw [hspaced]; rfl)
      simp
  have hwords := words_prefix_append_iff "SET".toList [] (by decide) (by decide) (s := s) (head?_trimEnd_space t)
  rw [hblank] at hwords
  rw [isSetting, isSetting, startsWith_iff, startsWith_iff]
  exact hwords

end Words

/-- A word stands first in a text just if it does once the comments are out. -/
theorem prefix_withoutComments_iff (hw : Unmarked w) : w <+: withoutComments s ↔ w <+: s := by
  induction s using withoutComments_induction generalizing w with
  | nil => rw [withoutComments_nil]
  | comment s rest hcomment ih =>
    rw [withoutComments_of_comment hcomment]
    cases w with
    | nil => simp
    | cons c w =>
      have hblank := hw.not_blank c List.mem_cons_self
      obtain ⟨ws, body, hws, -, rfl⟩ := hcomment
      refine iff_of_false (fun h => ?_) fun h => ?_
      · rw [(List.cons_prefix_cons.1 h).1] at hblank
        cases hblank
      · cases ws with
        | nil => exact hw c List.mem_cons_self ((List.cons_prefix_cons.1 h).1 ▸ by decide)
        | cons d ws =>
          rw [(List.cons_prefix_cons.1 h).1, hws d List.mem_cons_self] at hblank
          cases hblank
  | cons c s hnone ih =>
    rw [withoutComments_cons hnone]
    cases w with
    | nil => simp
    | cons d w => rw [List.cons_prefix_cons, List.cons_prefix_cons, ih fun c hc => hw c (List.mem_cons_of_mem d hc)]

/-! ## Comments and spaces between two parts -/

/-- What precedes a comment or a space is looked at by itself. -/
theorem normal_append (hopen : ¬ ['/', '*'] <:+: p) (hstar : t.head? ≠ some '*') :
    ∃ ws, Blank ws ∧ normal (p ++ t) = trim (caps (trim p) ++ withoutComments (caps (ws ++ t))) := by
  -- the blanks before the first part do not count, and those after it go with the second
  obtain ⟨as, ws, has, hws, hp⟩ := exists_trim p
  refine ⟨ws, hws, ?_⟩
  have hpad : normal (p ++ t) = normal (trim p ++ (ws ++ t)) := by
    have h := normal_pad (s := trim p ++ (ws ++ t)) has blank_nil
    rw [← h]
    conv_lhs => rw [hp]
    simp
  have hinside : ¬ ['/', '*'] <:+: caps (trim p) := fun h => by
    refine hopen ((pair_infix_caps (by decide) (by decide) rfl rfl h).trans ⟨as, ws, ?_⟩)
    rw [List.append_assoc, ← hp]
  have hnext : (caps (ws ++ t)).head? ≠ some '*' := fun h => by
    obtain ⟨u, hu⟩ := List.head?_eq_some_iff.1 h
    obtain ⟨v, hv, -⟩ := caps_eq_cons (by decide) rfl hu
    cases ws with
    | nil => exact hstar (by rw [show t = '*' :: v from hv]; rfl)
    | cons d ws =>
      cases hv
      exact nomatch hws '*' List.mem_cons_self
  have hend : trimEnd (caps (trim p)) = caps (trim p) := by rw [trimEnd_caps, trimEnd_of_trim (trim_idem p)]
  rw [hpad, normal, caps_append (trimEnd_of_trim (trim_idem p)), withoutComments_append hend hinside hnext]

theorem normal_commented (hopen : ¬ ['/', '*'] <:+: p) (hclose : ¬ ['*', '/'] <:+: c) :
    normal (p ++ '/' :: '*' :: (c ++ '*' :: '/' :: q)) =
      trim (caps (trim p) ++ ' ' :: withoutComments (caps (trimStart q))) := by
  obtain ⟨ws, hws, hnormal⟩ := normal_append (t := '/' :: '*' :: (c ++ '*' :: '/' :: q)) hopen (by simp)
  obtain ⟨ws', hws', hcaps⟩ := caps_comment ws c q hws
  rw [hnormal, hcaps, withoutComments_of_comment ⟨ws', caps c, hws', not_infix_caps_close hclose, rfl⟩, trimStart_caps]

theorem normal_spaced (hopen : ¬ ['/', '*'] <:+: p) :
    normal (p ++ ' ' :: q) = trim (caps (trim p) ++ withoutComments (' ' :: caps (trimStart q))) := by
  obtain ⟨ws, hws, hnormal⟩ := normal_append (t := ' ' :: q) hopen (by simp)
  have hcaps : caps (ws ++ ' ' :: q) = ' ' :: caps (trimStart q) := by
    rw [show ws ++ ' ' :: q = (ws ++ [' ']) ++ q by simp]
    exact caps_blank_cons (hws.append blank_space) (by simp)
  rw [hnormal, hcaps]

/-- Without another comment after it, a comment is a space. -/
theorem normal_of_not_comment (hopen : ¬ ['/', '*'] <:+: p) (hclose : ¬ ['*', '/'] <:+: c)
    (h : ∀ rest, ¬ CommentThen rest q) :
    normal (p ++ '/' :: '*' :: (c ++ '*' :: '/' :: q)) = normal (p ++ ' ' :: q) := by
  rw [normal_commented hopen hclose, normal_spaced hopen, withoutComments_cons]
  -- the space would belong to a comment only if one came next, which the text would have as well as its capitals
  intro r hr
  obtain ⟨rest, hrest⟩ := exists_of_commentThen_caps ((commentThen_blank_append blank_space).1 hr)
  exact h rest (commentThen_trimStart.1 hrest)

/-- With another comment after it, a comment is one space more. -/
theorem normal_of_comment (hopen : ¬ ['/', '*'] <:+: p) (hclose : ¬ ['*', '/'] <:+: c) (h : CommentThen rest q) :
    normal (p ++ '/' :: '*' :: (c ++ '*' :: '/' :: q)) =
        trim (caps (trim p) ++ ' ' :: ' ' :: withoutComments (caps (trimStart rest))) ∧
      normal (p ++ ' ' :: q) = trim (caps (trim p) ++ ' ' :: withoutComments (caps (trimStart rest))) := by
  have hcaps := (commentThen_trimStart.2 h).caps
  have hspace : CommentThen (caps rest) (' ' :: caps (trimStart q)) := (commentThen_blank_append blank_space).2 hcaps
  rw [normal_commented hopen hclose, normal_spaced hopen, withoutComments_of_comment hcaps,
    withoutComments_of_comment hspace, trimStart_caps]
  exact ⟨rfl, rfl⟩

/-- What one space more makes of the kind: `START` is no longer followed by `TRANSACTION`. -/
theorem kind_spaced (hne : s ≠ []) :
    (s = "START".toList ∧ startsWith "TRANSACTION" t = true →
        Kind.of (s ++ trimEnd (' ' :: ' ' :: t)) = .data ∧ Kind.of (s ++ trimEnd (' ' :: t)) = .opener) ∧
      (¬ (s = "START".toList ∧ startsWith "TRANSACTION" t = true) →
        Kind.of (s ++ trimEnd (' ' :: ' ' :: t)) = Kind.of (s ++ trimEnd (' ' :: t))) := by
  have hne' : ∀ t, s ++ t ≠ [] := fun t => List.append_ne_nil_of_left_ne_nil hne t
  -- after two spaces no word starts, so only the first part can still make an opener
  have hopener : isOpener (s ++ trimEnd (' ' :: ' ' :: t)) = isOpener s := by
    rw [Bool.eq_iff_iff, isOpener_spaced_iff, startsWith_space (by decide) (by decide)]
    simp
  have hsetting : isSetting (s ++ trimEnd (' ' :: ' ' :: t)) = isSetting (s ++ trimEnd (' ' :: t)) := by
    have hblank : Blank (' ' :: t) ↔ Blank t := List.forall_mem_cons.trans (and_iff_right rfl)
    rw [Bool.eq_iff_iff, isSetting_spaced_iff, isSetting_spaced_iff, hblank]
  constructor
  · rintro ⟨rfl, htransaction⟩
    refine ⟨Kind.of_eq_data_iff.2 ⟨hne' _, hopener.trans rfl, isCloser_spaced _ _, ?_⟩, ?_⟩
    · rw [← Bool.not_eq_true, isSetting_spaced_iff]
      rintro (h | ⟨h, -⟩)
      · exact absurd h (by decide)
      · exact absurd h (by decide)
    · exact Kind.of_eq_opener_iff.2 ((isOpener_spaced_iff _ _).2 (.inr ⟨rfl, htransaction⟩))
  · intro hapart
    have hopener' : isOpener (s ++ trimEnd (' ' :: t)) = isOpener s := by
      rw [Bool.eq_iff_iff, isOpener_spaced_iff, or_iff_left hapart]
    unfold Kind.of
    rw [List.isEmpty_eq_false_iff.2 (hne' _), List.isEmpty_eq_false_iff.2 (hne' _), hopener, hopener', hsetting,
      isCloser_spaced, isCloser_spaced]

/-- What one space more makes of an assignment: `SET` is no longer followed by `AUTOCOMMIT`. -/
theorem sets_spaced :
    (s = "SET".toList ∧ startsWith "AUTOCOMMIT" t = true →
        startsWith "SET AUTOCOMMIT" (s ++ trimEnd (' ' :: ' ' :: t)) = false ∧
          startsWith "SET AUTOCOMMIT" (s ++ trimEnd (' ' :: t)) = true) ∧
      (¬ (s = "SET".toList ∧ startsWith "AUTOCOMMIT" t = true) →
        startsWith "SET AUTOCOMMIT" (s ++ trimEnd (' ' :: ' ' :: t)) =
          startsWith "SET AUTOCOMMIT" (s ++ trimEnd (' ' :: t))) := by
  have hwords : ∀ t, startsWith "SET AUTOCOMMIT" (s ++ trimEnd (' ' :: t)) = true ↔
      startsWith "SET AUTOCOMMIT" s = true ∨ s = "SET".toList ∧ startsWith "AUTOCOMMIT" t = true :=
    startsWith_words_iff "SET" "AUTOCOMMIT" rfl (by decide) (by decide) (by decide) s
  have hmore : startsWith "SET AUTOCOMMIT" (s ++ trimEnd (' ' :: ' ' :: t)) = startsWith "SET AUTOCOMMIT" s := by
    rw [Bool.eq_iff_iff, hwords, startsWith_space (by decide) (by decide)]
    simp
  rw [hmore]
  constructor
  · rintro ⟨rfl, hautocommit⟩
    exact ⟨rfl, (hwords t).2 (.inr ⟨rfl, hautocommit⟩)⟩
  · intro hapart
    rw [Bool.eq_iff_iff, hwords t, or_iff_left hapart]

/-- The two words are torn apart: one stands before a comment, the other after a comment that follows it at once. -/
def Torn (first second : String) (p q : List Char) : Prop :=
  upper (trim p) = first.toList ∧
    ∃ rest, CommentThen rest (beforeFirst ';' q) ∧ startsWith second (upper (trimStart rest)) = true

theorem torn_iff {first second : String} (hfirst : Unmarked first.toList) (hsecond : Unmarked second.toList)
    (h : CommentThen rest (beforeFirst ';' q)) :
    Torn first second p q ↔
      caps (trim p) = first.toList ∧ startsWith second (withoutComments (caps (trimStart rest))) = true := by
  have hword : startsWith second (withoutComments (caps (trimStart rest))) = true ↔
      startsWith second (upper (trimStart rest)) = true := by
    rw [startsWith_iff, startsWith_iff, prefix_withoutComments_iff hsecond, prefix_caps_iff hsecond.not_blank]
  rw [caps_eq_iff hfirst.not_blank, hword]
  refine and_congr_right fun _ => ⟨?_, fun hrest => ⟨rest, h, hrest⟩⟩
  rintro ⟨rest', h', hrest⟩
  rwa [h.unique h']

/-- The text of two parts with a comment between them. -/
def commented (p c q : List Char) : List Char := p ++ '/' :: '*' :: (c ++ '*' :: '/' :: q)

theorem beforeFirst_commented (hp : ';' ∉ p) (hc : ';' ∉ c) (q : List Char) :
    beforeFirst ';' (commented p c q) = commented p c (beforeFirst ';' q) := by
  have hmark : ';' ∉ '/' :: '*' :: (c ++ ['*', '/']) := by simp [hc]
  have hsplit : ∀ q, '/' :: '*' :: (c ++ '*' :: '/' :: q) = ('/' :: '*' :: (c ++ ['*', '/'])) ++ q := by simp
  unfold commented
  rw [beforeFirst_append_of_not_mem hp, hsplit, beforeFirst_append_of_not_mem hmark, ← hsplit]

theorem beforeFirst_spaced (hp : ';' ∉ p) (q : List Char) :
    beforeFirst ';' (p ++ ' ' :: q) = p ++ ' ' :: beforeFirst ';' q := by
  rw [beforeFirst_append_of_not_mem hp]
  rfl

/-- A comment counts as a space, or it makes one space more after what precedes it. -/
theorem normal_commented_cases (hp : ';' ∉ p) (hopen : ¬ ['/', '*'] <:+: p) (hc : ';' ∉ c)
    (hclose : ¬ ['*', '/'] <:+: c) :
    (normal (beforeFirst ';' (commented p c q)) = normal (beforeFirst ';' (p ++ ' ' :: q)) ∧
        ∀ first second : String, first.toList ≠ [] → ¬ Torn first second p q) ∨
      ∃ rest, CommentThen rest (beforeFirst ';' q) ∧ caps (trim p) ≠ [] ∧
        normal (beforeFirst ';' (commented p c q)) =
          caps (trim p) ++ trimEnd (' ' :: ' ' :: withoutComments (caps (trimStart rest))) ∧
        normal (beforeFirst ';' (p ++ ' ' :: q)) =
          caps (trim p) ++ trimEnd (' ' :: withoutComments (caps (trimStart rest))) := by
  rw [beforeFirst_commented hp hc, beforeFirst_spaced hp, commented]
  by_cases h : ∃ rest, CommentThen rest (beforeFirst ';' q)
  · obtain ⟨rest, h⟩ := h
    obtain ⟨hcommented, hspaced⟩ := normal_of_comment hopen hclose h
    rcases eq_or_ne (caps (trim p)) [] with hnil | hne
    · -- spaces at the start do not count
      left
      refine ⟨?_, fun _ _ hfirst htorn => hfirst (htorn.1.symm.trans ((caps_eq_iff (by simp)).1 hnil))⟩
      rw [hcommented, hspaced, hnil]
      have htwo : Blank [' ', ' '] := blank_space.append blank_space
      exact (trim_blank_append htwo).trans (trim_blank_append blank_space).symm
    · have htrim : trim (caps (trim p)) = caps (trim p) := by rw [trim_caps, trim_idem]
      rw [trim_append htrim hne] at hcommented hspaced
      exact .inr ⟨rest, h, hne, hcommented, hspaced⟩
  · exact .inl ⟨normal_of_not_comment hopen hclose (not_exists.1 h), fun _ _ _ ⟨_, rest, hrest, _⟩ => h ⟨rest, hrest⟩⟩

section Commented

variable (hp : ';' ∉ p) (hopen : ¬ ['/', '*'] <:+: p) (hc : ';' ∉ c) (hclose : ¬ ['*', '/'] <:+: c)
include hp hopen hc hclose

theorem kind_commented :
    (Torn "START" "TRANSACTION" p q → kind (commented p c q) = .data ∧ kind (p ++ ' ' :: q) = .opener) ∧
      (¬ Torn "START" "TRANSACTION" p q → kind (commented p c q) = kind (p ++ ' ' :: q)) := by
  rw [kind_eq, kind_eq]
  rcases normal_commented_cases hp hopen hc hclose (q := q) with
    ⟨hnormal, hwhole⟩ | ⟨rest, hrest, hne, hcommented, hspaced⟩
  · exact ⟨fun h => absurd h (hwhole _ _ (by decide)), fun _ => by rw [hnormal]⟩
  · rw [hcommented, hspaced, torn_iff (by decide) (by decide) hrest]
    exact kind_spaced hne

theorem setsAutocommit_commented :
    (Torn "SET" "AUTOCOMMIT" p q → setsAutocommit (commented p c q) = false ∧ setsAutocommit (p ++ ' ' :: q) = true) ∧
      (¬ Torn "SET" "AUTOCOMMIT" p q → setsAutocommit (commented p c q) = setsAutocommit (p ++ ' ' :: q)) := by
  rw [setsAutocommit_eq, setsAutocommit_eq]
  rcases normal_commented_cases hp hopen hc hclose (q := q) with
    ⟨hnormal, hwhole⟩ | ⟨rest, hrest, -, hcommented, hspaced⟩
  · exact ⟨fun h => absurd h (hwhole _ _ (by decide)), fun _ => by rw [hnormal]⟩
  · rw [hcommented, hspaced, torn_iff (by decide) (by decide) hrest]
    exact sets_spaced

/-- A comment counts as a space, unless another follows it at once and the two stand between `START` and `TRANSACTION`,
which then are data and not an opener, or between `SET` and `AUTOCOMMIT`, which then assign nothing. -/
theorem commented_iff :
    (Alike (commented p c q) (p ++ ' ' :: q) ↔ ¬ Torn "START" "TRANSACTION" p q ∧ ¬ Torn "SET" "AUTOCOMMIT" p q) ∧
      (Torn "START" "TRANSACTION" p q → kind (commented p c q) = .data ∧ kind (p ++ ' ' :: q) = .opener) ∧
      (Torn "SET" "AUTOCOMMIT" p q → kind (commented p c q) = kind (p ++ ' ' :: q) ∧
        setsAutocommit (commented p c q) = false ∧ setsAutocommit (p ++ ' ' :: q) = true) := by
  obtain ⟨hstart, hkind⟩ := kind_commented hp hopen hc hclose (q := q)
  obtain ⟨hset, hsets⟩ := setsAutocommit_commented hp hopen hc hclose (q := q)
  refine ⟨⟨fun halike => ⟨fun htorn => ?_, fun htorn => ?_⟩, fun ⟨h, h'⟩ => alike_of_kind (hkind h) (hsets h')⟩, hstart,
    fun htorn => ⟨hkind ?_, hset htorn⟩⟩
  · obtain ⟨hdata, hopener⟩ := hstart htorn
    have hopens := halike.opens true
    rw [opensTransaction, opensTransaction, hdata, hopener] at hopens
    cases hopens
  · obtain ⟨hnone, hsome⟩ := hset htorn
    have hassigns := halike.sets
    rw [hnone, hsome] at hassigns
    cases hassigns
  · rintro ⟨hfirst, -⟩
    exact absurd (hfirst.symm.trans htorn.1) (by decide)

end Commented

/-- Two comments stand between the words of `START TRANSACTION`: what would open a transaction is taken for data. -/
theorem commented_start :
    ';' ∉ "START".toList ∧ ¬ ['/', '*'] <:+: "START".toList ∧ ';' ∉ ['a'] ∧ ¬ ['*', '/'] <:+: ['a'] ∧
      commented "START".toList ['a'] "/*b*/TRANSACTION".toList = "START/*a*//*b*/TRANSACTION".toList ∧
      opensTransaction "START/*a*//*b*/TRANSACTION".toList true = false ∧
      opensTransaction "START /*b*/TRANSACTION".toList true = true ∧
      isData "START/*a*//*b*/TRANSACTION".toList = true ∧ isData "START /*b*/TRANSACTION".toList = false := by
  decide +kernel

/-- With one comment between them the words stay together, with two they do not. -/
theorem commented_iff_start :
    Alike "START/*a*/TRANSACTION".toList "START TRANSACTION".toList ∧
      kind "START/*a*//*b*/TRANSACTION".toList = .data ∧ kind "START /*b*/TRANSACTION".toList = .opener := by
  have htorn : Torn "START" "TRANSACTION" "START".toList "/*b*/TRANSACTION".toList :=
    ⟨by decide +kernel, "TRANSACTION".toList, ⟨[], ['b'], blank_nil, by decide, by decide +kernel⟩, by decide +kernel⟩
  have hone := commented_iff (p := "START".toList) (c := ['a']) (q := "TRANSACTION".toList) (by decide) (by decide)
    (by decide) (by decide)
  have htwo := commented_iff (p := "START".toList) (c := ['a']) (q := "/*b*/TRANSACTION".toList) (by decide) (by decide)
    (by decide) (by decide)
  refine ⟨hone.1.2 ⟨?_, ?_⟩, htwo.2.1 htorn⟩
  · rintro ⟨-, rest, hrest, -⟩
    have hnone : afterComment (beforeFirst ';' "TRANSACTION".toList) = none := by decide +kernel
    rw [← afterComment_eq_some_iff, hnone] at hrest
    cases hrest
  · exact fun h => absurd h.1 (by decide +kernel)

end ReplicaRouter.Statement
