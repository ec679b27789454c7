import ReplicaRouter.Toml.Value
/-
Writing a TOML document of tables with plain entries. A string takes the first of four spellings
that can show it without escapes, and an escaped one if there is none.
-/
namespace ReplicaRouter.Toml

/-! ## What a string contains -/

/-- The length of the longest run of `c`, where `current` is the length of the run before. -/
def longestRun (c : Char) (current : Nat) : List Char → Nat
  | [] => current
  | d :: rest => if d = c then longestRun c (current + 1) rest else max current (longestRun c 0 rest)

/-- Whether the character is a control that only an escape can show; the tab is not one. -/
def needsEscape (c : Char) : Bool :=
  (c.toNat < 0x20 && c != '\t' && c != '\n') || c.toNat == 0x7F

/-- Whether a string has a backslash, a line feed, or a control character. -/
def hasBackslash (cs : List Char) : Bool := cs.contains '\\'

/-- Whether a string has a line feed. -/
def hasLineFeed (cs : List Char) : Bool := cs.contains '\n'

/-! ## Spellings -/

/-- A number in at least four hexadecimal capitals. -/
def hexadecimal (n : Nat) : List Char :=
  let digits := (Nat.toDigits 16 n).map fun c => if 'a' ≤ c ∧ c ≤ 'f' then Char.ofNat (c.toNat - 32) else c
  List.replicate (4 - digits.length) '0' ++ digits

/-- A basic string's characters, where `quotes` quotes stand just before and at most `allowed` may
stand in a row; line feeds are kept when `multiline`. -/
def escaped (multiline : Bool) (allowed : Nat) : (quotes : Nat) → List Char → List Char
  | _, [] => []
  | quotes, c :: rest =>
    if c = '"' then
      if allowed ≤ quotes then '\\' :: '"' :: escaped multiline allowed 0 rest
      else '"' :: escaped multiline allowed (quotes + 1) rest
    else
      let here : List Char :=
        if c = '\x08' then ['\\', 'b']
        else if c = '\t' then ['\\', 't']
        else if c = '\n' then (if multiline then ['\n'] else ['\\', 'n'])
        else if c = '\x0c' then ['\\', 'f']
        else if c = '\r' then ['\\', 'r']
        else if c = '\\' then ['\\', '\\']
        else if needsEscape c then '\\' :: 'u' :: hexadecimal c.toNat
        else [c]
      here ++ escaped multiline allowed 0 rest

/-- The text between single double quotes. -/
def basicSpelling (cs : List Char) : List Char := '"' :: escaped false 0 0 cs ++ ['"']

/-- The text between triple double quotes, after a line feed if it has several lines. -/
def basicLinesSpelling (cs : List Char) : List Char :=
  let quotes := ['"', '"', '"']
  quotes ++ (if hasLineFeed cs then ['\n'] else []) ++ escaped true 2 0 cs ++ quotes

/-- The text itself between triple single quotes, after a line feed if it has several lines. -/
def literalLinesSpelling (cs : List Char) : List Char :=
  let quotes := ['\'', '\'', '\'']
  quotes ++ (if hasLineFeed cs then ['\n'] else []) ++ cs ++ quotes

/-- The spelling of a string: plain, else literal, else plain over several lines, else literal over
several lines, else with escapes. -/
def spell (cs : List Char) : List Char :=
  let controls := cs.any needsEscape
  let single := longestRun '\'' 0 cs
  let double := longestRun '"' 0 cs
  if !controls && !hasBackslash cs && double == 0 && !hasLineFeed cs then basicSpelling cs
  else if !controls && single == 0 && !hasLineFeed cs then ['\''] ++ cs ++ ['\'']
  else if !controls && !hasBackslash cs && double ≤ 2 then basicLinesSpelling cs
  else if !controls && single ≤ 2 then literalLinesSpelling cs
  else if hasLineFeed cs then basicLinesSpelling cs
  else basicSpelling cs

/-! ## Documents -/

/-- A value that is written on the line of its key. -/
inductive Plain where
  | text (s : String)
  | integer (n : Nat)
  | boolean (b : Bool)

/-- The spelling of a plain value. -/
def Plain.spelling : Plain → String
  | text s => String.ofList (spell s.toList)
  | integer n => toString n
  | boolean b => toString b

/-- The value that the spelling stands for. -/
def Plain.value : Plain → Value
  | text s => .text s
  | integer n => .integer n
  | boolean b => .boolean b

/-- A table: its header and its entries. -/
structure Section where
  name : String
  entries : List (String × Plain)

def Section.spelling (s : Section) : String :=
  "[" ++ s.name ++ "]\n" ++
    String.join (s.entries.map fun (key, value) => key ++ " = " ++ value.spelling ++ "\n")

/-- Tables with a blank line between them. -/
def write (sections : List Section) : String :=
  "\n".intercalate (sections.map Section.spelling)

end ReplicaRouter.Toml
