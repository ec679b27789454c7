import Mathlib.Tactic.SplitIfs
import ReplicaRouter.Toml.Text
import ReplicaRouter.Toml.Writer
/-
Strings of a TOML document are read as they were meant. Each of the four spellings is read back by the reader of its
kind: everything between the quotes either stands for itself or is an escape, and a quote that stands for itself is told
from one that closes the string by how many stand in a row.
Main statement: whatever the string, its spelling is read as that string (`Toml.text?_spell`).
-/
namespace ReplicaRouter.Toml

variable {c : Char} {cs rest : List Char}

/-! ## Characters between double quotes -/

/-- How a character other than the double quote is written between double quotes. -/
def escapeOf (multiline : Bool) (c : Char) : List Char :=
  if c = '\x08' then ['\\', 'b']
  else if c = '\t' then ['\\', 't']
  else if c = '\n' then (if multiline then ['\n'] else ['\\', 'n'])
  else if c = '\x0c' then ['\\', 'f']
  else if c = '\r' then ['\\', 'r']
  else if c = '\\' then ['\\', '\\']
  else if needsEscape c then '\\' :: 'u' :: hexadecimal c.toNat
  else [c]

theorem escaped_cons_of_ne (multiline : Bool) (allowed quotes : Nat) (h : c ≠ '"') :
    escaped multiline allowed quotes (c :: cs) = escapeOf multiline c ++ escaped multiline allowed 0 cs := by
  rw [escaped, if_neg h]
  rfl

/-- What follows a backslash is read as this character, and is no line end. -/
def IsEscapeFor (c : Char) (e : List Char) : Prop :=
  (∀ rest, escape? (e ++ rest) = some (c, rest)) ∧ ∀ rest, lineFeed? (skipSpaces (e ++ rest)) = none

theorem scalar?_hexadecimal :
    ∀ n < 0x80, (hexadecimal n).length = 4 ∧ scalar? (hexadecimal n) = some (Char.ofNat n) := by
  decide +kernel

theorem isEscapeFor_hexadecimal (h : c.toNat < 0x80) : IsEscapeFor c ('u' :: hexadecimal c.toNat) := by
  obtain ⟨hlength, hscalar⟩ := scalar?_hexadecimal c.toNat h
  refine ⟨fun rest => ?_, fun rest => rfl⟩
  simp [escape?, hlength, hscalar]

/-- A character between double quotes stands for itself or is escaped. Only in a string over several lines may a line
feed or a double quote stand for itself. -/
inductive Written (multiline : Bool) (c : Char) : List Char → Prop
  | asItself (basic : isBasicChar c = true) : Written multiline c [c]
  | asLine (several : multiline = true) (feed : c = '\n') : Written multiline c ['\n']
  | asQuote (several : multiline = true) (quote : c = '"') : Written multiline c ['"']
  | asEscape {e : List Char} (escape : IsEscapeFor c e) : Written multiline c ('\\' :: e)

theorem Written.length_pos {multiline : Bool} {e : List Char} (h : Written multiline c e) : 0 < e.length := by
  cases h <;> exact Nat.succ_pos _

theorem written_escapeOf (multiline : Bool) (h : c ≠ '"') : Written multiline c (escapeOf multiline c) := by
  unfold escapeOf
  split_ifs with hb ht hn hm hf hr hs he
  · subst hb; exact .asEscape ⟨fun _ => rfl, fun _ => rfl⟩
  · subst ht; exact .asEscape ⟨fun _ => rfl, fun _ => rfl⟩
  · exact .asLine hm hn
  · subst hn; exact .asEscape ⟨fun _ => rfl, fun _ => rfl⟩
  · subst hf; exact .asEscape ⟨fun _ => rfl, fun _ => rfl⟩
  · subst hr; exact .asEscape ⟨fun _ => rfl, fun _ => rfl⟩
  · subst hs; exact .asEscape ⟨fun _ => rfl, fun _ => rfl⟩
  · refine .asEscape (isEscapeFor_hexadecimal ?_)
    simp [needsEscape] at he
    omega
  · refine .asItself ?_
    simp [needsEscape, ht, hn] at he
    simp [isBasicChar, ht, h, hs]
    omega

/-- An escaped string starts with its first character, and goes on as one that has seen no more quotes than it may. -/
theorem escaped_cons (multiline : Bool) {allowed : Nat} (hone : multiline = false → allowed = 0) (quotes : Nat)
    (c : Char) (cs : List Char) :
    ∃ e, ∃ quotes' ≤ allowed, Written multiline c e ∧
      escaped multiline allowed quotes (c :: cs) = e ++ escaped multiline allowed quotes' cs := by
  by_cases hc : c = '"'
  · subst hc
    by_cases hfull : allowed ≤ quotes
    · exact ⟨_, 0, Nat.zero_le _, .asEscape (e := ['"']) ⟨fun _ => rfl, fun _ => rfl⟩, by simp [escaped, hfull]⟩
    · have hseveral : multiline = true := by
        cases multiline with
        | true => rfl
        | false => have := hone rfl; omega
      exact ⟨_, quotes + 1, by omega, .asQuote hseveral rfl, by simp [escaped, hfull]⟩
  · exact ⟨_, 0, Nat.zero_le _, written_escapeOf multiline hc, escaped_cons_of_ne multiline allowed quotes hc⟩

/-! ## Strings on one line -/

theorem basicRest_of_written {e : List Char} {room : Nat} (h : Written false c e) :
    basicRest (room + 1) (e ++ cs) = consRead c (basicRest room cs) := by
  cases h with
  | asItself basic =>
    have hq : c ≠ '"' := by rintro rfl; exact absurd basic (by decide)
    have hs : c ≠ '\\' := by rintro rfl; exact absurd basic (by decide)
    rw [List.cons_append, List.nil_append, basicRest, if_pos basic]
    · simp [hq]
    · simp [hs]
  | asLine several _ => cases several
  | asQuote several _ => cases several
  | asEscape escape => simp [basicRest, escape.1]

theorem basicRest_escaped (cs rest : List Char) {room : Nat} (hroom : (escaped false 0 0 cs).length < room) :
    basicRest room (escaped false 0 0 cs ++ '"' :: rest) = some (cs, rest) := by
  induction cs generalizing room with
  | nil =>
    obtain ⟨room, rfl⟩ := Nat.exists_eq_add_one_of_ne_zero (Nat.ne_zero_of_lt hroom)
    rfl
  | cons c cs ih =>
    obtain ⟨room, rfl⟩ := Nat.exists_eq_add_one_of_ne_zero (Nat.ne_zero_of_lt hroom)
    obtain ⟨e, quotes, hq, he, heq⟩ := escaped_cons false (fun _ => rfl) 0 c cs
    obtain rfl : quotes = 0 := by omega
    have hpos := he.length_pos
    rw [heq, List.length_append] at hroom
    rw [heq, List.append_assoc, basicRest_of_written he, ih (by omega)]
    rfl

theorem literalRest_append (h : ∀ c ∈ cs, isLiteralChar c = true) :
    literalRest (cs ++ '\'' :: rest) = some (cs, rest) := by
  induction cs with
  | nil => rfl
  | cons c cs ih =>
    have hc : c ≠ '\'' := by rintro rfl; exact absurd (h '\'' (.head _)) (by decide)
    rw [List.cons_append, literalRest, if_pos (h c (.head _)), ih fun d hd => h d (.tail _ hd)]
    · rfl
    · simp [hc]

/-! ## The end of a string over several lines -/

/-- How many quotes stand in front. -/
def quotesAhead (quote : Char) (cs : List Char) : Nat := (cs.takeWhile (· == quote)).length

theorem quotesAhead_cons_self (quote : Char) (cs : List Char) :
    quotesAhead quote (quote :: cs) = quotesAhead quote cs + 1 := by
  simp [quotesAhead]

theorem quotesAhead_cons_of_ne {quote : Char} (h : c ≠ quote) : quotesAhead quote (c :: cs) = 0 := by
  simp [quotesAhead, h]

theorem closing?_of_le {quote : Char} (h : quotesAhead quote cs ≤ 2) : closing? quote cs = none := by
  unfold closing?
  rw [if_pos (by unfold quotesAhead at h; omega)]

/-- Up to two quotes may stand before the three that close. -/
theorem closing?_replicate {quote : Char} {k : Nat} (hk : k ≤ 2) (h : rest.head? ≠ some quote) :
    closing? quote (List.replicate k quote ++ (List.replicate 3 quote ++ rest)) =
      some (List.replicate k quote, rest) := by
  have hrest : rest.takeWhile (· == quote) = [] := by
    cases rest with
    | nil => rfl
    | cons c rest => simp_all
  have hrun : ((List.replicate (k + 3) quote ++ rest).takeWhile (· == quote)).length = k + 3 := by
    simp [hrest]
  have hmin : min (k + 3) 5 = k + 3 := by omega
  rw [← List.append_assoc, List.replicate_append_replicate]
  simp only [closing?, hrun, hmin]
  simp

/-- Nothing but quotes is left of a string, and they fit before the ones that close. -/
def IsTail (quote : Char) (quotes : Nat) (cs : List Char) : Prop :=
  ∃ k, cs = List.replicate k quote ∧ quotes + k ≤ 2

theorem isTail_nil {quote : Char} {quotes : Nat} (h : quotes ≤ 2) : IsTail quote quotes [] := ⟨0, rfl, h⟩

theorem IsTail.cons {quote : Char} {quotes : Nat} (h : IsTail quote (quotes + 1) cs) :
    IsTail quote quotes (quote :: cs) := by
  obtain ⟨k, rfl, hk⟩ := h
  exact ⟨k + 1, rfl, by omega⟩

theorem IsTail.closing? {quote : Char} {quotes : Nat} (h : IsTail quote quotes cs) (hrest : rest.head? ≠ some quote) :
    Toml.closing? quote (cs ++ (List.replicate 3 quote ++ rest)) = some (cs, rest) := by
  obtain ⟨k, rfl, hk⟩ := h
  exact closing?_replicate (by omega) hrest

/-- In a text with at most two quotes in a row, more quotes ahead are the end of the string. -/
theorem isTail_or_quotesAhead_le {quote : Char} {quotes : Nat} (h : longestRun quote quotes cs ≤ 2) (rest : List Char) :
    IsTail quote quotes cs ∨ quotes + quotesAhead quote (cs ++ rest) ≤ 2 := by
  induction cs generalizing quotes with
  | nil => exact .inl (isTail_nil h)
  | cons c cs ih =>
    rw [longestRun] at h
    by_cases hc : c = quote
    · subst hc
      rw [if_pos rfl] at h
      rw [List.cons_append, quotesAhead_cons_self]
      exact (ih h).imp IsTail.cons (by omega)
    · rw [if_neg hc] at h
      rw [List.cons_append, quotesAhead_cons_of_ne hc]
      exact .inr (by omega)

/-- So it is in a text where every quote after two in a row is escaped. -/
theorem escaped_isTail_or_quotesAhead_le {quotes : Nat} (hq : quotes ≤ 2) (cs rest : List Char) :
    (IsTail '"' quotes cs ∧ escaped true 2 quotes cs = cs) ∨
      quotes + quotesAhead '"' (escaped true 2 quotes cs ++ rest) ≤ 2 := by
  induction cs generalizing quotes with
  | nil => exact .inl ⟨isTail_nil hq, rfl⟩
  | cons c cs ih =>
    by_cases hc : c = '"'
    · subst hc
      rw [escaped, if_pos rfl]
      -- the first two quotes in a row are left as they are, a third one is escaped
      by_cases hfull : 2 ≤ quotes
      · rw [if_pos hfull, List.cons_append, quotesAhead_cons_of_ne (by decide)]
        exact .inr hq
      · rw [if_neg hfull, List.cons_append, quotesAhead_cons_self]
        exact (ih (by omega)).imp (fun ⟨htail, heq⟩ => ⟨htail.cons, by rw [heq]⟩) (by omega)
    · refine .inr ?_
      rw [escaped_cons_of_ne _ _ _ hc, List.append_assoc]
      have hw := written_escapeOf true hc
      generalize escapeOf true c = e at hw ⊢
      have hzero : quotesAhead '"' (e ++ (escaped true 2 0 cs ++ rest)) = 0 := by
        cases hw with
        | asItself _ => exact quotesAhead_cons_of_ne hc
        | asLine _ _ => exact quotesAhead_cons_of_ne (by decide)
        | asQuote _ quote => exact absurd quote hc
        | asEscape _ => exact quotesAhead_cons_of_ne (by decide)
      omega

/-! ## Strings over several lines -/

theorem lineFeed?_cons_of_ne (hn : c ≠ '\n') (hr : c ≠ '\r') : lineFeed? (c :: cs) = none := by
  unfold lineFeed?
  split
  · next heq => exact absurd (List.cons.inj heq).1 hn
  · next heq => exact absurd (List.cons.inj heq).1 hr
  · rfl

theorem lineFeed?_of_isBasicChar (h : isBasicChar c = true) : lineFeed? (c :: cs) = none :=
  lineFeed?_cons_of_ne (by rintro rfl; exact absurd h (by decide)) (by rintro rfl; exact absurd h (by decide))

theorem basicLines_of_closing {found : List Char × List Char} {room : Nat} (h : closing? '"' cs = some found) :
    basicLines (room + 1) cs = some found := by
  rw [basicLines.eq_def]
  simp [h]

theorem basicLines_of_written {e : List Char} {room : Nat} (h : Written true c e)
    (hopen : closing? '"' (e ++ cs) = none) :
    basicLines (room + 1) (e ++ cs) = consRead c (basicLines room cs) := by
  rw [basicLines.eq_def]
  simp only [hopen]
  cases h with
  | asItself basic =>
    have hs : c ≠ '\\' := by rintro rfl; exact absurd basic (by decide)
    simp [lineFeed?_of_isBasicChar basic, basic]
  | asLine _ feed => simp [lineFeed?, feed]
  | asQuote _ quote => simp [lineFeed?, quote]
  | asEscape escape =>
    simp only [List.cons_append, lineFeed?_cons_of_ne (show '\\' ≠ '\n' by decide) (show '\\' ≠ '\r' by decide),
      escape.1, escape.2]
    rfl

/-- The induction is on the string. The quotes just before matter, since they count for what may stand for itself. -/
theorem basicLines_escaped (cs : List Char) (hrest : rest.head? ≠ some '"') {quotes room : Nat} (hq : quotes ≤ 2)
    (hroom : (escaped true 2 quotes cs).length < room) :
    basicLines room (escaped true 2 quotes cs ++ (List.replicate 3 '"' ++ rest)) = some (cs, rest) := by
  induction cs generalizing quotes room with
  | nil =>
    obtain ⟨room, rfl⟩ := Nat.exists_eq_add_one_of_ne_zero (Nat.ne_zero_of_lt hroom)
    exact basicLines_of_closing ((isTail_nil hq).closing? hrest)
  | cons c cs ih =>
    obtain ⟨room, rfl⟩ := Nat.exists_eq_add_one_of_ne_zero (Nat.ne_zero_of_lt hroom)
    rcases escaped_isTail_or_quotesAhead_le hq (c :: cs) (List.replicate 3 '"' ++ rest) with ⟨htail, heq⟩ | hahead
    · rw [heq]
      exact basicLines_of_closing (htail.closing? hrest)
    · have hopen := closing?_of_le (Nat.le_of_add_left_le hahead)
      obtain ⟨e, quotes', hq', he, heq⟩ := escaped_cons true nofun quotes c cs
      have hpos := he.length_pos
      rw [heq, List.length_append] at hroom
      rw [heq, List.append_assoc] at hopen ⊢
      rw [basicLines_of_written he hopen, ih hq' (by omega)]
      rfl

theorem literalLines_of_closing {found : List Char × List Char} {room : Nat} (h : closing? '\'' cs = some found) :
    literalLines (room + 1) cs = some found := by
  rw [literalLines.eq_def]
  simp [h]

/-- A character that may stand between triple single quotes. -/
def IsLiteralOrFeed (c : Char) : Prop := isLiteralChar c = true ∨ c = '\'' ∨ c = '\n'

theorem literalLines_cons {room : Nat} (h : IsLiteralOrFeed c) (hopen : closing? '\'' (c :: cs) = none) :
    literalLines (room + 1) (c :: cs) = consRead c (literalLines room cs) := by
  rw [literalLines.eq_def]
  simp only [hopen]
  rcases h with h | rfl | rfl
  · have hn : c ≠ '\n' := by rintro rfl; exact absurd h (by decide)
    have hr : c ≠ '\r' := by rintro rfl; exact absurd h (by decide)
    simp [lineFeed?_cons_of_ne hn hr, h]
  · simp [lineFeed?]
  · simp [lineFeed?]

theorem literalLines_append (hrest : rest.head? ≠ some '\'') (h : ∀ c ∈ cs, IsLiteralOrFeed c) {quotes room : Nat}
    (hrun : longestRun '\'' quotes cs ≤ 2) (hroom : cs.length < room) :
    literalLines room (cs ++ (List.replicate 3 '\'' ++ rest)) = some (cs, rest) := by
  induction cs generalizing quotes room with
  | nil =>
    obtain ⟨room, rfl⟩ := Nat.exists_eq_add_one_of_ne_zero (Nat.ne_zero_of_lt hroom)
    exact literalLines_of_closing ((isTail_nil hrun).closing? hrest)
  | cons c cs ih =>
    obtain ⟨room, rfl⟩ := Nat.exists_eq_add_one_of_ne_zero (Nat.ne_zero_of_lt hroom)
    rcases isTail_or_quotesAhead_le hrun (List.replicate 3 '\'' ++ rest) with htail | hahead
    · exact literalLines_of_closing (htail.closing? hrest)
    · have hopen := closing?_of_le (Nat.le_of_add_left_le hahead)
      have hlater : literalLines room (cs ++ (List.replicate 3 '\'' ++ rest)) = some (cs, rest) := by
        rw [longestRun] at hrun
        have hroom' : cs.length < room := by simpa using hroom
        have h' : ∀ d ∈ cs, IsLiteralOrFeed d := fun d hd => h d (.tail _ hd)
        split at hrun
        · exact ih h' hrun hroom'
        · exact ih h' (Nat.le_trans (Nat.le_max_right _ _) hrun) hroom'
      rw [List.cons_append] at hopen ⊢
      rw [literalLines_cons (h c (.head _)) hopen, hlater]
      rfl

/-! ## Spellings -/

/-- Between double quotes on one line no string begins with a quote. -/
theorem escaped_ne_quote_cons (cs more : List Char) (hc : c ≠ '"') :
    escaped false 0 0 cs ++ '"' :: c :: rest ≠ '"' :: '"' :: more := by
  cases cs with
  | nil => simp [escaped, hc]
  | cons d cs =>
    obtain ⟨e, _, _, he, heq⟩ := escaped_cons false (fun _ => rfl) 0 d cs
    rw [heq]
    cases he with
    | asItself basic =>
      have hd : d ≠ '"' := by rintro rfl; exact absurd basic (by decide)
      simp [hd]
    | asLine several _ => cases several
    | asQuote several _ => cases several
    | asEscape _ => simp

theorem text?_basicSpelling (cs rest : List Char) :
    text? (basicSpelling cs ++ '\n' :: rest) = some (String.ofList cs, '\n' :: rest) := by
  have hread {room : Nat} (h : (escaped false 0 0 cs).length < room) := basicRest_escaped cs ('\n' :: rest) h
  simp only [basicSpelling, List.cons_append, List.append_assoc, List.nil_append]
  rw [text?, hread (by simp only [List.length_append]; omega)]
  · rfl
  · exact fun more => escaped_ne_quote_cons cs more (by decide)

/-- A string over several lines begins on a new line if it has any, and does not begin with a line end if not. -/
theorem skipFirstLineFeed_of_hasLineFeed (cs : List Char) {w : List Char}
    (h : hasLineFeed cs = false → lineFeed? w = none) :
    skipFirstLineFeed ((if hasLineFeed cs then ['\n'] else []) ++ w) = w := by
  cases hf : hasLineFeed cs with
  | true => rfl
  | false => simp [skipFirstLineFeed, h hf]

theorem lineFeed?_escaped (h : hasLineFeed cs = false) (w : List Char) :
    lineFeed? (escaped true 2 0 cs ++ (List.replicate 3 '"' ++ w)) = none := by
  cases cs with
  | nil => rfl
  | cons c cs =>
    obtain ⟨e, _, _, he, heq⟩ := escaped_cons true nofun 0 c cs
    rw [heq]
    cases he with
    | asItself basic => exact lineFeed?_of_isBasicChar basic
    | asLine _ feed => simp [hasLineFeed, feed] at h
    | asQuote _ _ => rfl
    | asEscape _ => rfl

theorem text?_basicLinesSpelling (cs rest : List Char) :
    text? (basicLinesSpelling cs ++ '\n' :: rest) = some (String.ofList cs, '\n' :: rest) := by
  have hskip := skipFirstLineFeed_of_hasLineFeed cs (w := escaped true 2 0 cs ++ (List.replicate 3 '"' ++ '\n' :: rest))
    fun h => lineFeed?_escaped h _
  have hread {room : Nat} (h : (escaped true 2 0 cs).length < room) :=
    basicLines_escaped cs (show ('\n' :: rest).head? ≠ some '"' by simp) (Nat.zero_le 2) h
  rw [show basicLinesSpelling cs ++ '\n' :: rest = '"' :: '"' :: '"' ::
    ((if hasLineFeed cs then ['\n'] else []) ++ (escaped true 2 0 cs ++ (List.replicate 3 '"' ++ '\n' :: rest))) by
      simp [basicLinesSpelling, List.replicate]]
  rw [text?, hskip, hread (by simp only [List.length_append]; omega)]
  rfl

/-- The text between single quotes on one line. -/
theorem text?_literalSpelling (hcs : cs ≠ []) (h : ∀ c ∈ cs, isLiteralChar c = true) (rest : List Char) :
    text? (['\''] ++ cs ++ ['\''] ++ '\n' :: rest) = some (String.ofList cs, '\n' :: rest) := by
  obtain ⟨c, cs, rfl⟩ := List.exists_cons_of_ne_nil hcs
  have hc : c ≠ '\'' := by rintro rfl; exact absurd (h '\'' (.head _)) (by decide)
  have hread : literalRest (c :: cs ++ '\'' :: '\n' :: rest) = some (c :: cs, '\n' :: rest) := literalRest_append h
  simp only [List.cons_append, List.nil_append, List.append_assoc] at hread ⊢
  rw [text?, hread]
  · rfl
  · simp [hc]

theorem lineFeed?_literal (h : ∀ c ∈ cs, IsLiteralOrFeed c) (hf : hasLineFeed cs = false) (w : List Char) :
    lineFeed? (cs ++ (List.replicate 3 '\'' ++ w)) = none := by
  cases cs with
  | nil => rfl
  | cons c cs =>
    have hn : c ≠ '\n' := by rintro rfl; simp [hasLineFeed] at hf
    refine lineFeed?_cons_of_ne hn ?_
    rintro rfl
    exact absurd (h '\r' (.head _)) (by unfold IsLiteralOrFeed; decide)

theorem text?_literalLinesSpelling (h : ∀ c ∈ cs, IsLiteralOrFeed c) (hrun : longestRun '\'' 0 cs ≤ 2)
    (rest : List Char) :
    text? (literalLinesSpelling cs ++ '\n' :: rest) = some (String.ofList cs, '\n' :: rest) := by
  have hskip := skipFirstLineFeed_of_hasLineFeed cs (w := cs ++ (List.replicate 3 '\'' ++ '\n' :: rest))
    fun hf => lineFeed?_literal h hf _
  have hread {room : Nat} (hroom : cs.length < room) :=
    literalLines_append (show ('\n' :: rest).head? ≠ some '\'' by simp) h hrun hroom
  rw [show literalLinesSpelling cs ++ '\n' :: rest = '\'' :: '\'' :: '\'' ::
    ((if hasLineFeed cs then ['\n'] else []) ++ (cs ++ (List.replicate 3 '\'' ++ '\n' :: rest))) by
      simp [literalLinesSpelling, List.replicate]]
  rw [text?, hskip, hread (by simp only [List.length_append]; omega)]
  rfl

/-! ### What may stand between single quotes -/

theorem le_longestRun (c : Char) (current : Nat) (cs : List Char) : current ≤ longestRun c current cs := by
  induction cs generalizing current with
  | nil => exact Nat.le_refl _
  | cons d cs ih =>
    rw [longestRun]
    split
    · exact Nat.le_of_succ_le (ih _)
    · exact Nat.le_max_left _ _

theorem not_mem_of_longestRun_eq_zero (h : longestRun c 0 cs = 0) : c ∉ cs := by
  induction cs with
  | nil => exact List.not_mem_nil
  | cons d cs ih =>
    rw [longestRun] at h
    split at h
    · have := le_longestRun c (0 + 1) cs
      omega
    · next hd => simp [Ne.symm hd, ih (by omega)]

theorem isLiteralOrFeed_of_not_needsEscape (h : needsEscape c = false) : IsLiteralOrFeed c := by
  unfold IsLiteralOrFeed
  by_cases hq : c = '\''
  · exact .inr (.inl hq)
  by_cases hn : c = '\n'
  · exact .inr (.inr hn)
  by_cases ht : c = '\t'
  · exact .inl (by simp [isLiteralChar, ht])
  · refine .inl ?_
    simp [needsEscape, hn, ht] at h
    simp [isLiteralChar, hq, ht]
    omega

theorem isLiteralChar_of (h : IsLiteralOrFeed c) (hq : c ≠ '\'') (hn : c ≠ '\n') : isLiteralChar c = true := by
  rcases h with h | h | h
  · exact h
  · exact absurd h hq
  · exact absurd h hn

/-- Whatever the string, its spelling at the end of a line is read as that string. -/
theorem text?_spell (cs rest : List Char) :
    text? (spell cs ++ '\n' :: rest) = some (String.ofList cs, '\n' :: rest) := by
  have hshown (h : cs.any needsEscape = false) : ∀ c ∈ cs, IsLiteralOrFeed c := fun c hc =>
    isLiteralOrFeed_of_not_needsEscape (by simpa using List.any_eq_false.1 h c hc)
  unfold spell
  dsimp only
  split_ifs with hplain hliteral hlines hliteralLines hfeed
  · exact text?_basicSpelling cs rest
  · simp only [Bool.and_eq_true, Bool.not_eq_true', beq_iff_eq] at hliteral
    obtain ⟨⟨hcontrols, hsingle⟩, hfeed⟩ := hliteral
    refine text?_literalSpelling (by rintro rfl; exact hplain rfl) (fun c hc => ?_) rest
    refine isLiteralChar_of (hshown hcontrols c hc) ?_ ?_
    · rintro rfl; exact not_mem_of_longestRun_eq_zero hsingle hc
    · rintro rfl; simp [hasLineFeed, hc] at hfeed
  · exact text?_basicLinesSpelling cs rest
  · simp only [Bool.and_eq_true, Bool.not_eq_true', decide_eq_true_eq] at hliteralLines
    exact text?_literalLinesSpelling (hshown hliteralLines.1) hliteralLines.2 rest
  · exact text?_basicLinesSpelling cs rest
  · exact text?_basicSpelling cs rest

end ReplicaRouter.Toml
