import ReplicaRouter.Toml.Document
import ReplicaRouter.Toml.Text
import ReplicaRouter.Toml.Number
/-
Reading a TOML document. The main definition is `read`, which gives the table of a document that
is well formed and nothing otherwise. Arrays and tables in braces nest less than eighty deep.
-/
namespace ReplicaRouter.Toml

/-! ## Keys -/

/-- Characters of a key without quotes. -/
def isKeyChar (c : Char) : Bool :=
  isDigit c || ('a' ≤ c && c ≤ 'z') || ('A' ≤ c && c ≤ 'Z') || c == '-' || c == '_'

/-- One part of a key. -/
def keyPart? (cs : List Char) : Option (String × List Char) :=
  match cs with
  | '"' :: _ => keyText? cs
  | '\'' :: _ => keyText? cs
  | _ =>
    let name := cs.takeWhile isKeyChar
    if name.isEmpty then none else some (String.ofList name, cs.dropWhile isKeyChar)

/-- The parts of a key between points, with blanks around each; `room` bounds their number. -/
def keyParts? : (room : Nat) → List Char → Option (List String × List Char)
  | 0, _ => none
  | room + 1, cs => do
    let (part, rest) ← keyPart? (skipSpaces cs)
    match skipSpaces rest with
    | '.' :: rest => (keyParts? room rest).map fun (parts, rest) => (part :: parts, rest)
    | rest => some ([part], rest)

/-- A dotted key: the parts before the last one, and the last one. -/
def key? (cs : List Char) : Option ((List String × String) × List Char) := do
  let (parts, rest) ← keyParts? 79 cs
  match parts.getLast? with
  | some last => some ((parts.dropLast, last), rest)
  | none => none

/-! ## Values -/

/-- The items of an array up to its closing bracket; `room` bounds the text left. -/
def items? (item? : List Char → Option (Value × List Char)) :
    (room : Nat) → List Char → Option (List Value × List Char)
  | 0, _ => none
  | room + 1, cs =>
    match skipFiller false cs with
    | ']' :: rest => some ([], rest)
    | cs => do
      let (v, rest) ← item? cs
      match skipFiller false rest with
      | ',' :: rest => (items? item? room rest).map fun (vs, rest) => (v :: vs, rest)
      | ']' :: rest => some ([v], rest)
      | _ => none

/-- A key and its value in a table in braces, put with the entries before it. -/
def braceEntry? (item? : List Char → Option (Value × List Char)) (entries : Entries)
    (cs : List Char) : Option (Entries × List Char) := do
  let ((path, key), rest) ← key? cs
  let (v, rest) ← item? (skipSpaces (← after? '=' rest))
  let entries ← Entries.assign path key v .header entries
  return (entries, skipSpaces rest)

/-- The entries of a table in braces, at least one, up to its closing brace. -/
def braceEntries? (item? : List Char → Option (Value × List Char)) :
    (room : Nat) → Entries → List Char → Option (Entries × List Char)
  | 0, _, _ => none
  | room + 1, entries, cs => do
    let (entries, rest) ← braceEntry? item? entries cs
    match rest with
    | ',' :: rest => braceEntries? item? room entries rest
    | '\x7d' :: rest => some (entries, rest)
    | _ => none

/-- A value whose arrays and braces nest no deeper than `depth`. -/
def value? : (depth : Nat) → List Char → Option (Value × List Char)
  | depth, cs =>
    match cs with
    | '"' :: _ => (text? cs).map fun (s, rest) => (.text s, rest)
    | '\'' :: _ => (text? cs).map fun (s, rest) => (.text s, rest)
    | 't' :: 'r' :: 'u' :: 'e' :: rest => some (.boolean true, rest)
    | 'f' :: 'a' :: 'l' :: 's' :: 'e' :: rest => some (.boolean false, rest)
    | '[' :: rest =>
      match depth with
      | 0 => none
      | depth + 1 =>
        (items? (value? depth) (rest.length + 1) rest).map fun (vs, rest) => (.array vs, rest)
    | '\x7b' :: rest =>
      match depth with
      | 0 => none
      | depth + 1 =>
        match skipSpaces rest with
        | '\x7d' :: rest => some (.table true [], rest)
        | rest =>
          (braceEntries? (value? depth) (rest.length + 1) [] rest).map fun (entries, rest) =>
            (.table true (finishEntries true entries), rest)
    | cs => numeric? cs

/-- A value as a document may hold it. -/
def topValue? (cs : List Char) : Option (Value × List Char) := value? 79 cs

/-! ## Documents -/

/-- A document that has been read in part: its table, and the header in force. -/
structure Draft where
  root : Entries
  header : List String

/-- A line with a header of a list of tables. -/
def seriesLine? (draft : Draft) (cs : List Char) : Option (Draft × List Char) := do
  let ((path, key), rest) ← key? cs
  let rest ← endOfLine? (← after? ']' (← after? ']' rest))
  let root ← Entries.openNext path key draft.root
  return ({ root, header := path ++ [key] }, rest)

/-- A line with a header of a table. -/
def headerLine? (draft : Draft) (cs : List Char) : Option (Draft × List Char) := do
  let ((path, key), rest) ← key? cs
  let rest ← endOfLine? (← after? ']' rest)
  let root ← Entries.openTable path key draft.root
  return ({ root, header := path ++ [key] }, rest)

/-- A line that assigns a value to a key. -/
def entryLine? (draft : Draft) (cs : List Char) : Option (Draft × List Char) := do
  let ((path, key), rest) ← key? cs
  let (v, rest) ← topValue? (skipSpaces (← after? '=' rest))
  let rest ← endOfLine? rest
  let root ← Entries.assignUnder draft.header path key v draft.root
  return ({ draft with root }, rest)

/-- One line, from its first character that is not blank. -/
def line? (draft : Draft) (cs : List Char) : Option (Draft × List Char) :=
  match cs with
  | '#' :: _ => (endOfLine? cs).map (draft, ·)
  | '\n' :: _ => (endOfLine? cs).map (draft, ·)
  | '\r' :: _ => (endOfLine? cs).map (draft, ·)
  | '[' :: '[' :: rest => seriesLine? draft rest
  | '[' :: rest => headerLine? draft rest
  | _ => entryLine? draft cs

/-- All lines to the end of the text; `room` bounds their number. -/
def lines? : (room : Nat) → Draft → List Char → Option Draft
  | 0, _, _ => none
  | room + 1, draft, cs =>
    match skipSpaces cs with
    | [] => some draft
    | cs => do
      let (draft, rest) ← line? draft cs
      lines? room draft rest

/-- The text without a byte order mark in front. -/
def withoutMark : List Char → List Char
  | '\uFEFF' :: rest => rest
  | cs => cs

/-- The entries of the table that a document describes. -/
def read (text : String) : Option (List (String × Value)) :=
  let cs := withoutMark text.toList
  (lines? (cs.length + 1) ⟨[], []⟩ cs).map fun draft => finishEntries false draft.root

end ReplicaRouter.Toml
