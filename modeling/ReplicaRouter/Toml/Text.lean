import ReplicaRouter.Toml.Lexical
/-
Strings of a TOML text, of all four kinds: basic and literal ones, each on one line or over
several. Each reader starts after the opening quotes and reads up to the closing ones.
-/
namespace ReplicaRouter.Toml

/-- The character of a Unicode scalar value given by hexadecimal digits. -/
def scalar? (digits : List Char) : Option Char :=
  if digits.all (isDigitOf 16) then
    let n := number 16 digits
    if h : n.isValidChar then some (Char.ofNatAux n h) else none
  else none

/-- Puts a character in front of what was read. -/
def consRead (c : Char) (found : Option (List Char × List Char)) :
    Option (List Char × List Char) :=
  found.map fun (text, rest) => (c :: text, rest)

/-- The character meant by an escape, and the text after it; the backslash has been read. -/
def escape? : List Char → Option (Char × List Char)
  | 'b' :: rest => some ('\x08', rest)
  | 't' :: rest => some ('\t', rest)
  | 'n' :: rest => some ('\n', rest)
  | 'f' :: rest => some ('\x0c', rest)
  | 'r' :: rest => some ('\r', rest)
  | '"' :: rest => some ('"', rest)
  | '\\' :: rest => some ('\\', rest)
  | 'u' :: rest =>
    if (rest.take 4).length = 4 then (scalar? (rest.take 4)).map (·, rest.drop 4) else none
  | 'U' :: rest =>
    if (rest.take 8).length = 8 then (scalar? (rest.take 8)).map (·, rest.drop 8) else none
  | _ => none

/-- Characters that stand for themselves in a basic string. -/
def isBasicChar (c : Char) : Bool :=
  c == '\t' || (0x20 ≤ c.toNat && c.toNat != 0x7F && c != '"' && c != '\\')

/-- Characters that stand for themselves in a literal string. -/
def isLiteralChar (c : Char) : Bool :=
  c == '\t' || (0x20 ≤ c.toNat && c.toNat != 0x7F && c != '\'')

/-- The rest of a basic string on one line; `room` bounds the characters left. -/
def basicRest : (room : Nat) → List Char → Option (List Char × List Char)
  | 0, _ => none
  | _ + 1, '"' :: rest => some ([], rest)
  | room + 1, '\\' :: rest => do
    let (c, rest) ← escape? rest
    consRead c (basicRest room rest)
  | room + 1, c :: rest => if isBasicChar c then consRead c (basicRest room rest) else none
  | _ + 1, [] => none

/-- The rest of a literal string on one line. -/
def literalRest : List Char → Option (List Char × List Char)
  | '\'' :: rest => some ([], rest)
  | c :: rest => if isLiteralChar c then consRead c (literalRest rest) else none
  | [] => none

/-- The text after blanks and line ends. -/
def skipBlankLines : List Char → List Char
  | '\n' :: rest => skipBlankLines rest
  | '\r' :: '\n' :: rest => skipBlankLines rest
  | c :: rest => if isSpace c then skipBlankLines rest else c :: rest
  | [] => []

/-- The end of a string over several lines, where up to two quotes may stand before the three
closing ones. -/
def closing? (quote : Char) (cs : List Char) : Option (List Char × List Char) :=
  let run := (cs.takeWhile (· == quote)).length
  if run < 3 then none
  else some (List.replicate (min run 5 - 3) quote, cs.drop (min run 5))

/-- The rest of a basic string over several lines. A backslash at the end of a line takes the line
end and all blanks after it away. -/
def basicLines : (room : Nat) → List Char → Option (List Char × List Char)
  | 0, _ => none
  | room + 1, cs =>
    match closing? '"' cs with
    | some found => some found
    | none => match lineFeed? cs with
      | some rest => consRead '\n' (basicLines room rest)
      | none => match cs with
        | '\\' :: rest =>
          if (lineFeed? (skipSpaces rest)).isSome then basicLines room (skipBlankLines rest)
          else do
            let (c, rest) ← escape? rest
            consRead c (basicLines room rest)
        | c :: rest =>
          if isBasicChar c || c == '"' then consRead c (basicLines room rest) else none
        | [] => none

/-- The rest of a literal string over several lines. -/
def literalLines : (room : Nat) → List Char → Option (List Char × List Char)
  | 0, _ => none
  | room + 1, cs =>
    match closing? '\'' cs with
    | some found => some found
    | none => match lineFeed? cs with
      | some rest => consRead '\n' (literalLines room rest)
      | none => match cs with
        | c :: rest =>
          if isLiteralChar c || c == '\'' then consRead c (literalLines room rest) else none
        | [] => none

/-- A line end right after opening quotes does not count. -/
def skipFirstLineFeed (cs : List Char) : List Char := (lineFeed? cs).getD cs

/-- A string of any kind. -/
def text? : List Char → Option (String × List Char)
  | '"' :: '"' :: '"' :: rest =>
    (basicLines (rest.length + 1) (skipFirstLineFeed rest)).map fun (s, rest) =>
      (String.ofList s, rest)
  | '"' :: rest => (basicRest (rest.length + 1) rest).map fun (s, rest) => (String.ofList s, rest)
  | '\'' :: '\'' :: '\'' :: rest =>
    (literalLines (rest.length + 1) (skipFirstLineFeed rest)).map fun (s, rest) =>
      (String.ofList s, rest)
  | '\'' :: rest => (literalRest rest).map fun (s, rest) => (String.ofList s, rest)
  | _ => none

/-- A string on one line, as keys may be written. -/
def keyText? : List Char → Option (String × List Char)
  | '"' :: rest => (basicRest (rest.length + 1) rest).map fun (s, rest) => (String.ofList s, rest)
  | '\'' :: rest => (literalRest rest).map fun (s, rest) => (String.ofList s, rest)
  | _ => none

end ReplicaRouter.Toml
