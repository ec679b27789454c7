import Mathlib.Data.List.Basic
import Mathlib.Data.List.TakeWhile
import ReplicaRouter.Proofs.Quoting
import ReplicaRouter.Toml.Reader
/-
Documents are read as they were written. A number at the end of a line is read as that number and as nothing else that
begins with digits, a key without quotes up to the blank or bracket behind it, and each line changes the document under
construction by just what it says.
Main statement: a document of tables with different names, whose entries have different keys, is read as those tables
(`Toml.read_write`).
-/
namespace ReplicaRouter.Toml

variable {c : Char} {cs rest : List Char} {n : Nat}

/-! ## Digits -/

theorem isDigit_of_mem_toDigits (h : c ∈ Nat.toDigits 10 n) : isDigit c = true := by
  have hc := Nat.isDigit_of_mem_toDigits (by decide) (by decide) h
  simpa [isDigit, Char.isDigit, Char.le_def] using hc

theorem digitValue?_of_isDigit (h : isDigit c = true) : digitValue? c = some (c.toNat - '0'.toNat) := by
  simp only [isDigit, Bool.and_eq_true, decide_eq_true_eq] at h
  exact if_pos h

theorem number_toDigits (n : Nat) : number 10 (Nat.toDigits 10 n) = n := by
  refine Eq.trans ?_ Nat.ofDigitChars_ten_toDigits
  rw [Nat.ofDigitChars_eq_foldl]
  refine List.foldl_ext _ _ _ fun m c hc => ?_
  rw [digitValue?_of_isDigit (isDigit_of_mem_toDigits hc), Nat.mul_comm]
  rfl

/-- No number but zero begins with a zero. -/
theorem toDigits_eq_cons (h : n ≠ 0) : ∃ d ds, Nat.toDigits 10 n = d :: ds ∧ d ≠ '0' := by
  induction n using Nat.strongRecOn with
  | ind n ih =>
    by_cases hn : n < 10
    · refine ⟨n.digitChar, [], Nat.toDigits_of_lt_base hn, ?_⟩
      have all : ∀ m < 10, m ≠ 0 → m.digitChar ≠ '0' := by decide
      exact all n hn h
    · obtain ⟨d, ds, heq, hd⟩ := ih (n / 10) (by omega) (by omega)
      exact ⟨d, ds ++ [(n % 10).digitChar], by rw [Nat.toDigits_of_base_le (by decide) (by omega), heq]; rfl, hd⟩

theorem moreDigits_append (h : ∀ c ∈ cs, isDigit c = true) (rest : List Char) :
    moreDigits isDigit (cs ++ '\n' :: rest) = (cs, '\n' :: rest) := by
  induction cs with
  | nil =>
    rw [List.nil_append, moreDigits]
    · rfl
    · simp
  | cons c cs ih =>
    have hc := h c (.head _)
    have hu : c ≠ '_' := by rintro rfl; exact absurd hc (by decide)
    rw [List.cons_append, moreDigits, if_pos hc, ih fun d hd => h d (.tail _ hd)]
    simp [hu]

theorem plainDigits?_toDigits (n : Nat) (rest : List Char) :
    plainDigits? (Nat.toDigits 10 n ++ '\n' :: rest) = some (Nat.toDigits 10 n, '\n' :: rest) := by
  by_cases hn : n = 0
  · subst hn
    rfl
  · obtain ⟨d, ds, heq, hd⟩ := toDigits_eq_cons hn
    have hdigits : ∀ c ∈ d :: ds, isDigit c = true := fun c hc => isDigit_of_mem_toDigits (heq ▸ hc)
    rw [heq, List.cons_append, plainDigits?]
    · simp [digits?, hdigits d (.head _), moreDigits_append fun c hc => hdigits c (.tail _ hc)]
    · simp [hd]

/-! ## Numbers -/

/-- Behind digits at the end of a line there is a digit or the end. -/
theorem digits_ne_cons {d : Char} (h : ∀ c ∈ cs, isDigit c = true) (hd : isDigit d = false) (hfeed : d ≠ '\n')
    (rest more : List Char) : cs ++ '\n' :: rest ≠ d :: more := by
  cases cs with
  | nil => simp [Ne.symm hfeed]
  | cons c cs =>
    have hne : c ≠ d := by rintro rfl; simp [h c (.head _)] at hd
    simp [hne]

/-- So nothing else stands right after some of the digits. -/
theorem after?_of_fixedDigits? {d : Char} {k m : Nat} {more : List Char} (h : ∀ c ∈ cs, isDigit c = true)
    (hd : isDigit d = false) (hfeed : d ≠ '\n') (hfixed : fixedDigits? k (cs ++ '\n' :: rest) = some (m, more)) :
    after? d more = none := by
  simp only [fixedDigits?, Option.ite_none_right_eq_some, Option.some.injEq, Prod.mk.injEq] at hfixed
  obtain ⟨⟨-, hall⟩, -, rfl⟩ := hfixed
  -- The end of the line is no digit, so it is not among the characters taken.
  have hk : k ≤ cs.length := by
    by_contra hk
    have hmem : '\n' ∈ (cs ++ '\n' :: rest).take k := by
      obtain ⟨j, hj⟩ : ∃ j, k - cs.length = j + 1 := ⟨k - cs.length - 1, by omega⟩
      simp [List.take_append, hj]
    exact absurd (List.all_eq_true.1 hall _ hmem) (by decide)
  rw [List.drop_append_of_le_length hk]
  have hdrop : ∀ c ∈ cs.drop k, isDigit c = true := fun c hc => h c (List.mem_of_mem_drop hc)
  unfold after?
  split
  · next heq =>
    rw [if_neg]
    rintro rfl
    exact digits_ne_cons hdrop hd hfeed rest _ heq
  · rfl

theorem day?_digits (h : ∀ c ∈ cs, isDigit c = true) (rest : List Char) : day? (cs ++ '\n' :: rest) = none := by
  unfold day?
  cases hyear : fixedDigits? 4 (cs ++ '\n' :: rest) with
  | none => rfl
  | some found => simp [after?_of_fixedDigits? h (show isDigit '-' = false by decide) (by decide) hyear]

theorem time?_digits (h : ∀ c ∈ cs, isDigit c = true) (rest : List Char) : time? (cs ++ '\n' :: rest) = none := by
  unfold time? clock?
  cases hhour : fixedDigits? 2 (cs ++ '\n' :: rest) with
  | none => rfl
  | some found => simp [after?_of_fixedDigits? h (show isDigit ':' = false by decide) (by decide) hhour]

theorem date?_digits (h : ∀ c ∈ cs, isDigit c = true) (rest : List Char) : date? (cs ++ '\n' :: rest) = none := by
  simp [date?, day?_digits h, time?_digits h]

theorem sign_of_isDigit (h : isDigit c = true) : sign (c :: cs) = (false, c :: cs) := by
  unfold sign
  split
  · next heq => cases heq; exact absurd h (by decide)
  · next heq => cases heq; exact absurd h (by decide)
  · rfl

/-- A number begins with a digit, and goes on with digits. -/
theorem toDigits_append (n : Nat) (rest : List Char) :
    ∃ c cs, isDigit c = true ∧ (∀ d ∈ cs, isDigit d = true) ∧
      Nat.toDigits 10 n ++ '\n' :: rest = c :: (cs ++ '\n' :: rest) := by
  obtain ⟨c, cs, heq⟩ := List.exists_cons_of_ne_nil (Nat.toDigits_ne_nil (n := n) (b := 10))
  have h : ∀ d ∈ c :: cs, isDigit d = true := fun d hd => isDigit_of_mem_toDigits (heq ▸ hd)
  exact ⟨c, cs, h c (.head _), fun d hd => h d (.tail _ hd), by rw [heq]; rfl⟩

theorem sign_toDigits (n : Nat) (rest : List Char) :
    sign (Nat.toDigits 10 n ++ '\n' :: rest) = (false, Nat.toDigits 10 n ++ '\n' :: rest) := by
  obtain ⟨c, cs, hc, -, heq⟩ := toDigits_append n rest
  rw [heq, sign_of_isDigit hc]

theorem decimalFloat?_toDigits (n : Nat) (rest : List Char) :
    decimalFloat? (Nat.toDigits 10 n ++ '\n' :: rest) = none := by
  simp [decimalFloat?, sign_toDigits, plainDigits?_toDigits, fraction?, exponent?]

theorem specialFloat?_toDigits (n : Nat) (rest : List Char) :
    specialFloat? (Nat.toDigits 10 n ++ '\n' :: rest) = none := by
  have hdigits : ∀ c ∈ Nat.toDigits 10 n, isDigit c = true := fun c hc => isDigit_of_mem_toDigits hc
  rw [specialFloat?, sign_toDigits]
  split
  · next heq => exact absurd heq (digits_ne_cons hdigits (by decide) (by decide) rest _)
  · next heq => exact absurd heq (digits_ne_cons hdigits (by decide) (by decide) rest _)
  · rfl

theorem integer?_toDigits (n : Nat) (rest : List Char) :
    integer? (Nat.toDigits 10 n ++ '\n' :: rest) = fitting n ('\n' :: rest) := by
  obtain ⟨c, cs, hc, hcs, heq⟩ := toDigits_append n rest
  have hdecimal : integer? (c :: (cs ++ '\n' :: rest)) =
      (plainDigits? (c :: (cs ++ '\n' :: rest))).bind fun found => fitting (number 10 found.1 : Int) found.2 := by
    rw [integer?, sign_of_isDigit hc]
    · rfl
    -- The other bases are told by a letter in the second place.
    all_goals
      intro more heq
      exact digits_ne_cons hcs (by decide) (by decide) rest more (List.cons.inj heq).2
  rw [heq, hdecimal, ← heq, plainDigits?_toDigits, Option.bind_some, number_toDigits]

theorem numeric?_toDigits (h : fits n) (rest : List Char) :
    numeric? (Nat.toDigits 10 n ++ '\n' :: rest) = some (.integer n, '\n' :: rest) := by
  rw [numeric?, date?_digits fun c hc => isDigit_of_mem_toDigits hc, decimalFloat?_toDigits, specialFloat?_toDigits,
    integer?_toDigits, fitting, if_pos h]
  rfl

/-! ## Values -/

/-- A value that a document can hold. -/
def Plain.Fits : Plain → Prop
  | .text _ => True
  | .integer n => fits n
  | .boolean _ => True

theorem value?_of_isDigit {depth : Nat} (h : isDigit c = true) : value? depth (c :: cs) = numeric? (c :: cs) := by
  rw [value?]
  all_goals
    intro more heq
    cases heq
    exact absurd h (by decide)

/-- A string begins with a quote. -/
theorem exists_quote_of_text? {found : String × List Char} (h : text? cs = some found) :
    ∃ rest, cs = '"' :: rest ∨ cs = '\'' :: rest := by
  unfold text? at h
  split at h
  · exact ⟨_, .inl rfl⟩
  · exact ⟨_, .inl rfl⟩
  · exact ⟨_, .inr rfl⟩
  · exact ⟨_, .inr rfl⟩
  · contradiction

theorem value?_of_text? {s : String} {depth : Nat} {more : List Char} (h : text? cs = some (s, more)) :
    value? depth cs = some (.text s, more) := by
  obtain ⟨rest, rfl | rfl⟩ := exists_quote_of_text? h
  · rw [value?, h]; rfl
  · rw [value?, h]; rfl

theorem spelling_integer (n : Nat) : (Plain.integer n).spelling.toList = Nat.toDigits 10 n := by
  rw [Plain.spelling, Nat.toString_eq_repr, Nat.toList_repr]

theorem spelling_text (s : String) : (Plain.text s).spelling.toList = spell s.toList := by
  rw [Plain.spelling, String.toList_ofList]

theorem topValue?_spelling {v : Plain} (h : v.Fits) (rest : List Char) :
    topValue? (v.spelling.toList ++ '\n' :: rest) = some (v.value, '\n' :: rest) := by
  cases v with
  | text s =>
    rw [topValue?, spelling_text, value?_of_text? (text?_spell s.toList rest), String.ofList_toList]
    rfl
  | integer n =>
    obtain ⟨c, cs, hc, -, heq⟩ := toDigits_append n rest
    have hread : value? 79 (Nat.toDigits 10 n ++ '\n' :: rest) = numeric? (Nat.toDigits 10 n ++ '\n' :: rest) := by
      rw [heq, value?_of_isDigit hc]
    rw [topValue?, spelling_integer, hread, numeric?_toDigits h]
    rfl
  | boolean b => cases b <;> rfl

theorem skipSpaces_of_ne (h : isSpace c = false) : skipSpaces (c :: cs) = c :: cs := by
  simp [skipSpaces, h]

/-- What is a character of a key is not this other character. -/
theorem ne_of_isKeyChar {d : Char} (h : isKeyChar c = true) (hd : isKeyChar d = false) : c ≠ d := by
  rintro rfl
  simp [h] at hd

theorem isKeyChar_of_isDigit (h : isDigit c = true) : isKeyChar c = true := by
  simp [isKeyChar, h]

theorem skipSpaces_of_isKeyChar (h : isKeyChar c = true) : skipSpaces (c :: cs) = c :: cs := by
  refine skipSpaces_of_ne ?_
  simp [isSpace, ne_of_isKeyChar h (show isKeyChar ' ' = false by decide),
    ne_of_isKeyChar h (show isKeyChar '\t' = false by decide)]

theorem skipSpaces_spelling (v : Plain) (rest : List Char) :
    skipSpaces (v.spelling.toList ++ '\n' :: rest) = v.spelling.toList ++ '\n' :: rest := by
  cases v with
  | text s =>
    obtain ⟨more, heq | heq⟩ := exists_quote_of_text? (text?_spell s.toList rest)
    · rw [spelling_text, heq, skipSpaces_of_ne (by decide)]
    · rw [spelling_text, heq, skipSpaces_of_ne (by decide)]
  | integer n =>
    obtain ⟨c, cs, hc, -, heq⟩ := toDigits_append n rest
    rw [spelling_integer, heq, skipSpaces_of_isKeyChar (isKeyChar_of_isDigit hc)]
  | boolean b => cases b <;> rfl

/-! ## Keys -/

/-- A name that needs no quotes. -/
def IsBare (name : String) : Prop := name ≠ "" ∧ ∀ c ∈ name.toList, isKeyChar c = true

instance {name : String} : Decidable (IsBare name) :=
  decidable_of_iff (name ≠ "" ∧ name.toList.all isKeyChar = true) (by simp [IsBare])

theorem IsBare.exists_cons {name : String} (h : IsBare name) : ∃ c cs, name.toList = c :: cs ∧ isKeyChar c = true := by
  obtain ⟨c, cs, heq⟩ := List.exists_cons_of_ne_nil (mt String.toList_eq_nil_iff.1 h.1)
  exact ⟨c, cs, heq, h.2 c (by simp [heq])⟩

theorem skipSpaces_bare {name : String} (h : IsBare name) (rest : List Char) :
    skipSpaces (name.toList ++ rest) = name.toList ++ rest := by
  obtain ⟨c, cs, heq, hc⟩ := h.exists_cons
  rw [heq, List.cons_append, skipSpaces_of_isKeyChar hc]

theorem keyPart?_bare {name : String} {d : Char} (h : IsBare name) (hd : isKeyChar d = false) (rest : List Char) :
    keyPart? (name.toList ++ d :: rest) = some (name, d :: rest) := by
  have htake : (name.toList ++ d :: rest).takeWhile isKeyChar = name.toList := by
    simp [List.takeWhile_append_of_pos h.2, hd]
  have hdrop : (name.toList ++ d :: rest).dropWhile isKeyChar = d :: rest := by
    simp [List.dropWhile_append_of_pos h.2, hd]
  obtain ⟨c, cs, heq, hc⟩ := h.exists_cons
  unfold keyPart?
  split
  · next hquote =>
    rw [heq] at hquote
    cases hquote
    exact absurd hc (by decide)
  · next hquote =>
    rw [heq] at hquote
    cases hquote
    exact absurd hc (by decide)
  · dsimp only
    rw [htake, hdrop, String.ofList_toList]
    simp [h.1]

/-- A key without quotes is read up to the first character that it cannot have, and the blanks behind it. -/
theorem key?_bare {name : String} {d : Char} (h : IsBare name) (hd : isKeyChar d = false)
    (hpoint : ∀ more, skipSpaces (d :: rest) ≠ '.' :: more) :
    key? (name.toList ++ d :: rest) = some (([], name), skipSpaces (d :: rest)) := by
  have hparts : keyParts? 79 (name.toList ++ d :: rest) = some ([name], skipSpaces (d :: rest)) := by
    rw [keyParts?, skipSpaces_bare h, keyPart?_bare h hd]
    simp only [Option.bind_eq_bind, Option.bind_some]
  rw [key?, hparts]
  rfl

/-! ## The table under construction -/

/-- In a list without repetitions nothing stands before itself. -/
theorem not_mem_of_nodup_append {x : String} {xs ys : List String} (h : (xs ++ x :: ys).Nodup) : x ∉ xs := fun hx =>
  (List.nodup_append.1 h).2.2 x hx x (.head _) rfl

/-- The part of a document under construction that an entry becomes. -/
def entryNode (entry : String × Plain) : String × Node := (entry.1, .value entry.2.value)

/-- The part of a document under construction that a table becomes, after some of its entries. -/
def tableNode (name : String) (entries : List (String × Plain)) : String × Node :=
  (name, .table .header (entries.map entryNode))

namespace Entries

theorem find_eq_none {key : String} {entries : Entries} (h : key ∉ entries.map Prod.fst) : find key entries = none := by
  rw [find, Option.map_eq_none_iff, List.find?_eq_none]
  intro entry hentry hkey
  exact h (List.mem_map.2 ⟨entry, hentry, by simpa using hkey⟩)

theorem find_append_self {key : String} {entries : Entries} (h : key ∉ entries.map Prod.fst) (node : Node) :
    find key (entries ++ [(key, node)]) = some node := by
  have hnone := Option.map_eq_none_iff.1 (find_eq_none h)
  simp [find, List.find?_append, hnone]

theorem set_append_self {key : String} {entries : Entries} (h : key ∉ entries.map Prod.fst) (old node : Node) :
    set key node (entries ++ [(key, old)]) = entries ++ [(key, node)] := by
  induction entries with
  | nil => simp [set]
  | cons entry entries ih =>
    simp only [List.map_cons, List.mem_cons, not_or] at h
    simp [set, Ne.symm h.1, ih h.2]

/-- A header opens a table at the end. -/
theorem openTable_of_new {name : String} {root : Entries} (h : name ∉ root.map Prod.fst) :
    openTable [] name root = some (root ++ [tableNode name []]) := by
  simp [openTable, descend, find_eq_none h, tableNode]

/-- An entry goes to the end of the table whose header is in force. -/
theorem assignUnder_of_new {name : String} {root : Entries} {entries : List (String × Plain)} {entry : String × Plain}
    (hname : name ∉ root.map Prod.fst) (hkey : entry.1 ∉ entries.map Prod.fst) :
    assignUnder [name] [] entry.1 entry.2.value (root ++ [tableNode name entries]) =
      some (root ++ [tableNode name (entries ++ [entry])]) := by
  have hinner : find entry.1 (entries.map entryNode) = none := find_eq_none (by simpa [entryNode] using hkey)
  simp [assignUnder, descend, assign, tableNode, find_append_self hname, set_append_self hname, hinner, entryNode]

end Entries

/-! ## Lines -/

theorem endOfLine?_feed (rest : List Char) : endOfLine? ('\n' :: rest) = some rest := rfl

theorem after?_self (c : Char) (cs : List Char) : after? c (c :: cs) = some cs := if_pos rfl

theorem line?_header {draft : Draft} (h : isKeyChar c = true) (cs : List Char) :
    line? draft ('[' :: c :: cs) = headerLine? draft (c :: cs) := by
  rw [line?]
  intro more hcs
  cases hcs
  exact absurd h (by decide)

theorem line?_entry {draft : Draft} (h : isKeyChar c = true) (cs : List Char) :
    line? draft (c :: cs) = entryLine? draft (c :: cs) := by
  rw [line?]
  all_goals
    intro more hcs
    cases hcs
    exact absurd h (by decide)

theorem line?_bare_header {name : String} {draft : Draft} (h : IsBare name) (hnew : name ∉ draft.root.map Prod.fst)
    (rest : List Char) :
    line? draft ('[' :: (name.toList ++ ']' :: '\n' :: rest)) =
      some (⟨draft.root ++ [tableNode name []], [name]⟩, rest) := by
  have hkey : key? (name.toList ++ ']' :: '\n' :: rest) = some (([], name), ']' :: '\n' :: rest) :=
    key?_bare h (by decide) (by simp [skipSpaces, isSpace])
  obtain ⟨c, cs, heq, hc⟩ := h.exists_cons
  have hheader : line? draft ('[' :: (name.toList ++ ']' :: '\n' :: rest)) =
      headerLine? draft (name.toList ++ ']' :: '\n' :: rest) := by
    rw [heq]
    exact line?_header hc _
  rw [hheader, headerLine?, hkey]
  simp [after?_self, endOfLine?_feed, Entries.openTable_of_new hnew]

/-- The text of an entry. -/
def entryText (entry : String × Plain) : List Char :=
  entry.1.toList ++ ' ' :: '=' :: ' ' :: (entry.2.spelling.toList ++ ['\n'])

theorem line?_bare_entry {root : Entries} {name : String} {entries : List (String × Plain)} {entry : String × Plain}
    (hbare : IsBare entry.1) (hfits : entry.2.Fits) (hname : name ∉ root.map Prod.fst)
    (hkey : entry.1 ∉ entries.map Prod.fst) (rest : List Char) :
    line? ⟨root ++ [tableNode name entries], [name]⟩ (entryText entry ++ rest) =
      some (⟨root ++ [tableNode name (entries ++ [entry])], [name]⟩, rest) := by
  have htext : entryText entry ++ rest =
      entry.1.toList ++ ' ' :: '=' :: ' ' :: (entry.2.spelling.toList ++ '\n' :: rest) := by
    simp [entryText]
  have hread : key? (entryText entry ++ rest) =
      some (([], entry.1), '=' :: ' ' :: (entry.2.spelling.toList ++ '\n' :: rest)) := by
    rw [htext]
    exact key?_bare hbare (by decide) (by simp [skipSpaces, isSpace])
  have hvalue : topValue? (skipSpaces (' ' :: (entry.2.spelling.toList ++ '\n' :: rest))) =
      some (entry.2.value, '\n' :: rest) := by
    rw [show skipSpaces (' ' :: (entry.2.spelling.toList ++ '\n' :: rest)) =
      skipSpaces (entry.2.spelling.toList ++ '\n' :: rest) from rfl, skipSpaces_spelling, topValue?_spelling hfits]
  obtain ⟨c, cs, heq, hc⟩ := hbare.exists_cons
  -- A key begins with a character that no other kind of line begins with.
  have hline (draft : Draft) : line? draft (entryText entry ++ rest) = entryLine? draft (entryText entry ++ rest) := by
    rw [entryText, heq]
    exact line?_entry hc _
  rw [hline, entryLine?, hread]
  simp [after?_self, hvalue, endOfLine?_feed, Entries.assignUnder_of_new hname hkey]

/-! ## Documents -/

/-- Going on from this draft, a text is read as this document. -/
def Draft.Reads (draft : Draft) (cs : List Char) (result : Draft) : Prop :=
  ∀ room, cs.length < room → lines? room draft cs = some result

theorem Draft.reads_nil (draft : Draft) : draft.Reads [] draft := by
  intro room hroom
  obtain ⟨room, rfl⟩ := Nat.exists_eq_add_one_of_ne_zero (Nat.ne_zero_of_lt hroom)
  rfl

/-- A line that does not begin with a blank changes the draft, and the rest of the text is read from there. -/
theorem Draft.Reads.line {draft draft' result : Draft} (h : draft'.Reads rest result) (hblank : skipSpaces cs = cs)
    (hline : line? draft cs = some (draft', rest)) (hlength : rest.length < cs.length) : draft.Reads cs result := by
  intro room hroom
  obtain ⟨room, rfl⟩ := Nat.exists_eq_add_one_of_ne_zero (Nat.ne_zero_of_lt hroom)
  obtain ⟨c, cs, rfl⟩ := List.exists_cons_of_length_pos (Nat.zero_lt_of_lt hlength)
  rw [lines?, hblank]
  simp [hline, h room (by omega)]

theorem Draft.Reads.blank {draft result : Draft} (h : draft.Reads rest result) : draft.Reads ('\n' :: rest) result :=
  h.line rfl rfl (Nat.lt_succ_self _)

/-- Entries with different keys are read one after another. The induction is on those to come; the ones before are in
the table already. -/
theorem Draft.Reads.entries {root : Entries} {name : String} {entries : List (String × Plain)} {result : Draft}
    (before : List (String × Plain)) (hname : name ∉ root.map Prod.fst) (hbare : ∀ entry ∈ entries, IsBare entry.1)
    (hfits : ∀ entry ∈ entries, entry.2.Fits) (hkeys : ((before ++ entries).map Prod.fst).Nodup)
    (h : Draft.Reads ⟨root ++ [tableNode name (before ++ entries)], [name]⟩ rest result) :
    Draft.Reads ⟨root ++ [tableNode name before], [name]⟩ (entries.flatMap entryText ++ rest) result := by
  induction entries generalizing before with
  | nil => simpa using h
  | cons entry entries ih =>
    have hkey : entry.1 ∉ before.map Prod.fst := not_mem_of_nodup_append (by simpa using hkeys)
    have hrest := ih (before ++ [entry]) (fun e he => hbare e (.tail _ he)) (fun e he => hfits e (.tail _ he))
      (by simpa using hkeys) (by simpa using h)
    have hblank : skipSpaces (entryText entry ++ (entries.flatMap entryText ++ rest)) =
        entryText entry ++ (entries.flatMap entryText ++ rest) := by
      rw [entryText, List.append_assoc, skipSpaces_bare (hbare _ (.head _))]
    rw [List.flatMap_cons, List.append_assoc]
    refine hrest.line hblank (line?_bare_entry (hbare _ (.head _)) (hfits _ (.head _)) hname hkey _) ?_
    simp only [entryText, List.length_append, List.length_cons]
    omega

/-- A table that is read as it was written: neither its header nor its keys need quotes, its keys are different, and its
values are such as a document can hold. -/
structure Section.Readable (s : Section) : Prop where
  name : IsBare s.name
  keys : ∀ key ∈ s.entries.map Prod.fst, IsBare key
  distinct : (s.entries.map Prod.fst).Nodup
  values : ∀ entry ∈ s.entries, entry.2.Fits

theorem Section.toList_spelling (s : Section) :
    s.spelling.toList = '[' :: (s.name.toList ++ ']' :: '\n' :: s.entries.flatMap entryText) := by
  simp [Section.spelling, String.toList_join, List.flatMap_map]
  rfl

/-- What a table has become when it has been read. -/
def Section.node (s : Section) : String × Node := tableNode s.name s.entries

theorem Draft.Reads.section {s : Section} {draft result : Draft} (hs : s.Readable)
    (hnew : s.name ∉ draft.root.map Prod.fst)
    (h : Draft.Reads ⟨draft.root ++ [s.node], [s.name]⟩ rest result) :
    draft.Reads (s.spelling.toList ++ rest) result := by
  have htext : s.spelling.toList ++ rest =
      '[' :: (s.name.toList ++ ']' :: '\n' :: (s.entries.flatMap entryText ++ rest)) := by
    simp [s.toList_spelling]
  have hentries := Draft.Reads.entries [] hnew (List.forall_mem_map.1 hs.keys) hs.values hs.distinct h
  rw [htext]
  refine hentries.line rfl (line?_bare_header hs.name hnew _) ?_
  simp only [List.length_append, List.length_cons]
  omega

/-- The induction is on the tables, over a draft that holds none of their names. -/
theorem Draft.reads_write {sections : List Section} (hread : ∀ s ∈ sections, s.Readable) (draft : Draft)
    (hnames : (draft.root.map Prod.fst ++ sections.map Section.name).Nodup) :
    ∃ header, draft.Reads (write sections).toList ⟨draft.root ++ sections.map Section.node, header⟩ := by
  induction sections generalizing draft with
  | nil => exact ⟨draft.header, by simpa [write] using draft.reads_nil⟩
  | cons s sections ih =>
    have hnew : s.name ∉ draft.root.map Prod.fst := not_mem_of_nodup_append hnames
    obtain ⟨header, hrest⟩ := ih (fun t ht => hread t (.tail _ ht)) ⟨draft.root ++ [s.node], [s.name]⟩
      (by simpa [Section.node, tableNode] using hnames)
    refine ⟨header, ?_⟩
    cases sections with
    | nil => simpa [write] using Draft.Reads.section (hread s (.head _)) hnew hrest
    | cons t sections =>
      have htext : (write (s :: t :: sections)).toList =
          s.spelling.toList ++ '\n' :: (write (t :: sections)).toList := by
        simp [write, String.intercalate_cons_cons]
      rw [htext]
      simpa using Draft.Reads.section (hread s (.head _)) hnew hrest.blank

theorem finishEntries_entryNode (inBraces : Bool) (entries : List (String × Plain)) :
    finishEntries inBraces (entries.map entryNode) = entries.map fun entry => (entry.1, entry.2.value) := by
  induction entries with
  | nil => rfl
  | cons entry entries ih => simp [finishEntries, ih, entryNode, Node.finish]

/-- The table that a section stands for. -/
def Section.value (s : Section) : String × Value :=
  (s.name, .table false (s.entries.map fun entry => (entry.1, entry.2.value)))

theorem finishEntries_node (sections : List Section) :
    finishEntries false (sections.map Section.node) = sections.map Section.value := by
  induction sections with
  | nil => rfl
  | cons s sections ih =>
    simp [finishEntries, ih, Section.node, tableNode, Node.finish, finishEntries_entryNode, Section.value]

theorem withoutMark_write (sections : List Section) :
    withoutMark (write sections).toList = (write sections).toList := by
  cases sections with
  | nil => rfl
  | cons s sections =>
    obtain ⟨more, heq⟩ : ∃ more, (write (s :: sections)).toList = '[' :: more := by
      cases sections with
      | nil =>
        simp only [write, List.map_cons, List.map_nil, String.intercalate_singleton, s.toList_spelling]
        exact ⟨_, rfl⟩
      | cons t sections =>
        simp only [write, List.map_cons, String.intercalate_cons_cons, String.toList_append, s.toList_spelling]
        exact ⟨_, rfl⟩
    rw [heq, withoutMark]
    simp

/-- A document of tables with different names is read as it was written. -/
theorem read_write {sections : List Section} (hread : ∀ s ∈ sections, s.Readable)
    (hnames : (sections.map Section.name).Nodup) : read (write sections) = some (sections.map Section.value) := by
  obtain ⟨header, hlines⟩ := Draft.reads_write hread ⟨[], []⟩ (by simpa using hnames)
  rw [read, withoutMark_write, hlines _ (Nat.lt_succ_self _)]
  simp [finishEntries_node]

end ReplicaRouter.Toml
