import ReplicaRouter.Proofs.Spacing
import ReplicaRouter.Statement
/-
Block comments in a text. A comment starts with `/*` after any blanks and ends with the first `*/` after that; what is
taken out is all closed comments, one after the other from the left.
Main statements: what a comment is (`afterComment_eq_some_iff`), and which parts of a text may be looked at by
themselves: what precedes the first `/*` (`withoutComments_append`), and what follows the last `*/`
(`withoutComments_append_open`).
-/
namespace ReplicaRouter.Statement

open Text

variable {cs rest ws body s t : List Char} {c : Char}

/-! ## What a comment is -/

/-- After any blanks the text has a comment, and after that this rest. -/
def CommentThen (rest cs : List Char) : Prop :=
  ∃ ws body, Blank ws ∧ ¬ ['*', '/'] <:+: body ∧ cs = ws ++ '/' :: '*' :: (body ++ '*' :: '/' :: rest)

theorem afterClose_cons (h : ¬ ['*', '/'] <+: c :: cs) : afterClose (c :: cs) = afterClose cs := by
  rw [afterClose]
  rintro r ⟨⟩ rfl
  exact h (List.prefix_append ['*', '/'] r)

theorem afterClose_eq_some_iff : afterClose cs = some rest ↔
    ∃ body, ¬ ['*', '/'] <:+: body ∧ cs = body ++ '*' :: '/' :: rest := by
  constructor
  · intro h
    fun_induction afterClose cs with
    | case1 r =>
      cases h
      exact ⟨[], by simp, rfl⟩
    | case2 c r hne ih =>
      obtain ⟨body, hbody, rfl⟩ := ih h
      refine ⟨c :: body, fun hinfix => ?_, rfl⟩
      rcases List.infix_cons_iff.1 hinfix with ⟨r', hp⟩ | hinfix
      · obtain ⟨rfl, rfl⟩ := List.cons.inj hp
        exact hne _ rfl rfl
      · exact hbody hinfix
    | case3 => cases h
  · rintro ⟨body, hbody, rfl⟩
    -- the body is walked through again, as nothing in it ends the comment
    induction body with
    | nil => rfl
    | cons c body ih =>
      rw [List.cons_append, afterClose_cons]
      · exact ih fun h => hbody (List.infix_cons_iff.2 (.inr h))
      · -- the closing marks do not overlap: a `*` at the end of the body is followed by another
        intro hp
        obtain ⟨hstar, hnext⟩ := List.cons_prefix_cons.1 hp
        cases body with
        | nil => cases (List.cons_prefix_cons.1 hnext).1
        | cons d body =>
          rw [← hstar, ← (List.cons_prefix_cons.1 hnext).1] at hbody
          exact hbody (List.prefix_append ['*', '/'] body).isInfix

theorem afterComment_blank_append (h : Blank ws) : afterComment (ws ++ cs) = afterComment cs := by
  unfold afterComment
  rw [trimStart_append h]

theorem afterComment_eq_some_iff : afterComment cs = some rest ↔ CommentThen rest cs := by
  constructor
  · intro h
    unfold afterComment at h
    split at h
    · next body heq =>
      obtain ⟨ws, hws, hcs⟩ := exists_trimStart cs
      obtain ⟨b, hb, rfl⟩ := afterClose_eq_some_iff.1 h
      exact ⟨ws, b, hws, hb, by rw [← heq, ← hcs]⟩
    · cases h
  · rintro ⟨ws, body, hws, hbody, rfl⟩
    rw [afterComment_blank_append hws]
    exact afterClose_eq_some_iff.2 ⟨body, hbody, rfl⟩

theorem commentThen_blank_append (h : Blank ws) : CommentThen rest (ws ++ cs) ↔ CommentThen rest cs := by
  rw [← afterComment_eq_some_iff, afterComment_blank_append h, afterComment_eq_some_iff]

theorem commentThen_trimStart : CommentThen rest (trimStart cs) ↔ CommentThen rest cs := by
  obtain ⟨ws, hws, hcs⟩ := exists_trimStart cs
  conv_rhs => rw [hcs, commentThen_blank_append hws]

theorem CommentThen.unique {rest' : List Char} (h : CommentThen rest cs) (h' : CommentThen rest' cs) :
    rest = rest' := by
  rw [← afterComment_eq_some_iff] at h h'
  exact Option.some_inj.1 (h.symm.trans h')

theorem CommentThen.append (h : CommentThen rest cs) (t : List Char) : CommentThen (rest ++ t) (cs ++ t) := by
  obtain ⟨ws, body, hws, hbody, rfl⟩ := h
  exact ⟨ws, body, hws, hbody, by simp⟩

/-- Where no comment ends in the second part, or just before it, a comment is one of the first part. -/
theorem CommentThen.of_append (hclose : ¬ ['*', '/'] <:+: t) (hslash : t.head? ≠ some '/')
    (h : CommentThen rest (s ++ t)) : ∃ r, rest = r ++ t ∧ CommentThen r s := by
  obtain ⟨ws, body, hws, hbody, hst⟩ := h
  have hsplit : s ++ t = (ws ++ '/' :: '*' :: body ++ ['*', '/']) ++ rest := by
    rw [hst]
    simp
  rcases List.append_eq_append_iff.1 hsplit with ⟨a, ha, ht⟩ | ⟨r, hs, hrest⟩
  · -- the closing marks end within the second part only if they have nothing in it
    rcases List.eq_nil_or_concat a with rfl | ⟨b, x, rfl⟩
    · exact ⟨[], ht.symm, ws, body, hws, hbody, by rw [← List.append_nil s, ← ha]; simp⟩
    · rw [List.concat_eq_append] at ha ht
      have hlast : (ws ++ '/' :: '*' :: body ++ ['*']) ++ ['/'] = (s ++ b) ++ [x] := by
        rw [List.append_assoc _ b, ← ha]
        simp
      obtain ⟨hstar, hx⟩ := List.append_inj' hlast rfl
      obtain rfl := (List.singleton_inj.1 hx).symm
      rw [ht] at hclose hslash
      rcases List.eq_nil_or_concat b with rfl | ⟨b', y, rfl⟩
      · exact absurd rfl hslash
      · rw [List.concat_eq_append, ← List.append_assoc] at hstar
        obtain ⟨-, hy⟩ := List.append_inj' hstar rfl
        obtain rfl := (List.singleton_inj.1 hy).symm
        refine absurd ⟨b', rest, ?_⟩ hclose
        simp
  · exact ⟨r, hrest, ws, body, hws, hbody, by rw [hs]; simp⟩

/-! ## Texts without their comments -/

theorem withoutComments_nil : withoutComments [] = [] := by rw [withoutComments.eq_def]

theorem withoutComments_cons_eq (c : Char) (cs : List Char) : withoutComments (c :: cs) =
    match afterComment (c :: cs) with
    | some rest => ' ' :: withoutComments (trimStart rest)
    | none => c :: withoutComments cs := by
  rw [withoutComments.eq_def]
  dsimp only
  split
  · next rest h => rw [h]
  · next h => rw [h]

theorem withoutComments_of_comment (h : CommentThen rest cs) :
    withoutComments cs = ' ' :: withoutComments (trimStart rest) := by
  have hcomment := afterComment_eq_some_iff.2 h
  cases cs with
  | nil => exact nomatch (show afterComment [] = none from rfl).symm.trans hcomment
  | cons c cs => rw [withoutComments_cons_eq, hcomment]

theorem withoutComments_cons (h : ∀ r, ¬ CommentThen r (c :: cs)) :
    withoutComments (c :: cs) = c :: withoutComments cs := by
  have hnone : afterComment (c :: cs) = none :=
    Option.eq_none_iff_forall_ne_some.2 fun r hr => h r (afterComment_eq_some_iff.1 hr)
  rw [withoutComments_cons_eq, hnone]

/-- A text goes on without its comments in one of two ways. -/
theorem withoutComments_cases (c : Char) (cs : List Char) :
    (∃ rest, CommentThen rest (c :: cs) ∧ withoutComments (c :: cs) = ' ' :: withoutComments (trimStart rest)) ∨
      (∀ r, ¬ CommentThen r (c :: cs)) ∧ withoutComments (c :: cs) = c :: withoutComments cs := by
  by_cases h : ∃ rest, CommentThen rest (c :: cs)
  · obtain ⟨rest, h⟩ := h
    exact .inl ⟨rest, h, withoutComments_of_comment h⟩
  · exact .inr ⟨not_exists.1 h, withoutComments_cons (not_exists.1 h)⟩

/-- What holds of a text without its comments is shown along the text, one comment or one character at a time. -/
theorem withoutComments_induction {P : List Char → Prop} (nil : P [])
    (comment : ∀ cs rest, CommentThen rest cs → P (trimStart rest) → P cs)
    (cons : ∀ c cs, (∀ r, ¬ CommentThen r (c :: cs)) → P cs → P (c :: cs)) (cs : List Char) : P cs := by
  fun_induction withoutComments cs with
  | case1 => exact nil
  | case2 c cs rest h ih => exact comment _ rest (afterComment_eq_some_iff.1 h) ih
  | case3 c cs h ih =>
    refine cons c cs (fun r hr => ?_) ih
    rw [afterComment_eq_some_iff.2 hr] at h
    cases h

/-- What stands in a text without its comments stood in the text, spaces apart. -/
theorem mem_withoutComments {x : Char} (h : x ∈ withoutComments cs) : x = ' ' ∨ x ∈ cs := by
  induction cs using withoutComments_induction with
  | nil =>
    rw [withoutComments_nil] at h
    cases h
  | comment cs rest hcomment ih =>
    rw [withoutComments_of_comment hcomment] at h
    rcases List.mem_cons.1 h with rfl | h
    · exact .inl rfl
    · refine (ih h).imp_right fun hx => ?_
      obtain ⟨ws, body, -, -, rfl⟩ := hcomment
      have hrest := (List.dropWhile_suffix isBlank).mem hx
      simp [hrest]
  | cons c cs hnone ih =>
    rw [withoutComments_cons hnone] at h
    rcases List.mem_cons.1 h with rfl | h
    · exact .inr List.mem_cons_self
    · exact (ih h).imp_right (List.mem_cons_of_mem c)

/-! ### Parts -/

theorem withoutComments_blank_append (cs : List Char) (h : Blank ws) :
    ∃ ws', Blank ws' ∧ withoutComments (ws ++ cs) = ws' ++ withoutComments cs := by
  induction ws with
  | nil => exact ⟨[], blank_nil, rfl⟩
  | cons c ws ih =>
    obtain ⟨hc, hws⟩ := List.forall_mem_cons.1 h
    rcases withoutComments_cases c (ws ++ cs) with ⟨rest, hcomment, hrest⟩ | ⟨-, hcons⟩
    · -- the blanks are part of the comment that follows them
      refine ⟨[], blank_nil, hrest.trans (withoutComments_of_comment ?_).symm⟩
      exact (commentThen_blank_append h).1 hcomment
    · obtain ⟨ws', hws', hcs⟩ := ih hws
      refine ⟨c :: ws', List.forall_mem_cons.2 ⟨hc, hws'⟩, ?_⟩
      rw [List.cons_append, hcons, hcs]
      rfl

theorem withoutComments_append_blank (cs : List Char) (h : Blank ws) :
    ∃ ws', Blank ws' ∧ withoutComments (cs ++ ws) = withoutComments cs ++ ws' := by
  have hmark : ∀ {ws : List Char}, Blank ws → '/' ∉ ws := fun h hslash => nomatch h '/' hslash
  induction cs using withoutComments_induction generalizing ws with
  | nil =>
    obtain ⟨ws', hws', hcs⟩ := withoutComments_blank_append [] h
    rw [List.append_nil, withoutComments_nil, List.append_nil] at hcs
    exact ⟨ws', hws', by rw [withoutComments_nil]; exact hcs⟩
  | comment cs rest hcomment ih =>
    obtain ⟨bs, hbs, hrest⟩ := trimStart_append_blank (s := rest) h
    obtain ⟨ws', hws', hcs⟩ := ih hbs
    refine ⟨ws', hws', ?_⟩
    rw [withoutComments_of_comment (hcomment.append ws), withoutComments_of_comment hcomment, hrest, hcs]
    rfl
  | cons c cs hnone ih =>
    obtain ⟨ws', hws', hcs⟩ := ih h
    refine ⟨ws', hws', ?_⟩
    rw [List.cons_append, withoutComments_cons, withoutComments_cons hnone, hcs]
    · rfl
    · -- blanks close no comment, so the longer text has none here that the shorter has not
      intro r hr
      obtain ⟨r, -, hr⟩ := CommentThen.of_append (s := c :: cs) (fun hi => hmark h (hi.subset (by simp)))
        (fun hs => hmark h (List.mem_of_mem_head? hs)) hr
      exact hnone r hr

/-- What precedes the first comment stays as it is, if it does not end with a blank. -/
theorem withoutComments_append (hs : trimEnd s = s) (hopen : ¬ ['/', '*'] <:+: s) (hstar : t.head? ≠ some '*') :
    withoutComments (s ++ t) = s ++ withoutComments t := by
  induction s with
  | nil => rfl
  | cons c s ih =>
    have hblank := not_blank_of_trimEnd hs (List.cons_ne_nil c s)
    rw [List.cons_append, withoutComments_cons, ih (trimEnd_of_cons hs) fun h => hopen (List.infix_cons_iff.2 (.inr h))]
    · rfl
    · -- a comment would start within the blanks of this part, at its end, or within it
      rintro r ⟨ws, body, hws, -, hst⟩
      rw [← List.cons_append] at hst
      rcases List.append_eq_append_iff.1 hst with ⟨a, rfl, -⟩ | ⟨a, ha, ht⟩
      · exact hblank fun d hd => hws d (List.mem_append_left a hd)
      · rcases a with _ | ⟨x, _ | ⟨y, a⟩⟩
        · rw [List.append_nil] at ha
          exact hblank (ha ▸ hws)
        · cases ht
          exact hstar rfl
        · obtain ⟨hslash, hnext⟩ := List.cons.inj ht
          rw [← hslash, ← (List.cons.inj hnext).1] at ha
          exact hopen ⟨ws, a, by rw [ha]; simp⟩

/-- Where no comment ends there is none. -/
theorem withoutComments_of_open (h : ¬ ['*', '/'] <:+: cs) : withoutComments cs = cs := by
  induction cs with
  | nil => exact withoutComments_nil
  | cons c cs ih =>
    rw [withoutComments_cons, ih fun hi => h (List.infix_cons_iff.2 (.inr hi))]
    rintro r ⟨ws, body, -, -, hcs⟩
    exact h ⟨ws ++ '/' :: '*' :: body, r, by rw [hcs]; simp⟩

/-- A part that ends no comment stays as it is after what precedes it, if it starts with neither a blank nor `/`. -/
theorem withoutComments_append_open {x : Char} (hx : isBlank x = false) (hslash : x ≠ '/')
    (hclose : ¬ ['*', '/'] <:+: x :: t) : withoutComments (cs ++ x :: t) = withoutComments cs ++ x :: t := by
  induction cs using withoutComments_induction with
  | nil =>
    rw [withoutComments_nil]
    exact withoutComments_of_open hclose
  | comment cs rest hcomment ih =>
    rw [withoutComments_of_comment (hcomment.append _), withoutComments_of_comment hcomment,
      trimStart_append_cons hx, ih]
    rfl
  | cons c cs hnone ih =>
    rw [List.cons_append, withoutComments_cons, withoutComments_cons hnone, ih]
    · rfl
    · intro r hr
      obtain ⟨r, -, hr⟩ := CommentThen.of_append (s := c :: cs) hclose (fun hs => hslash (Option.some_inj.1 hs)) hr
      exact hnone r hr

end ReplicaRouter.Statement
