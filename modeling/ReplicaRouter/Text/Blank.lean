/-
White space and what is done with it: trimming at the ends, collapsing inner runs, and cutting a
text at a separator. A text is a list of characters here; the modules above convert at their edge.
-/
namespace ReplicaRouter.Text

/-- The characters with the Unicode property White_Space. -/
def isBlank (c : Char) : Bool :=
  let n := c.toNat
  (9 ≤ n && n ≤ 13) || n == 0x20 || n == 0x85 || n == 0xA0 || n == 0x1680 ||
    (0x2000 ≤ n && n ≤ 0x200A) || n == 0x2028 || n == 0x2029 || n == 0x202F || n == 0x205F ||
    n == 0x3000

/-! ## Trimming -/

/-- The text without the blanks it starts with. -/
def trimStart (cs : List Char) : List Char := cs.dropWhile isBlank

/-- The text without the blanks it ends with. -/
def trimEnd (cs : List Char) : List Char := (cs.reverse.dropWhile isBlank).reverse

/-- The text without blanks at either end. -/
def trim (cs : List Char) : List Char := trimEnd (trimStart cs)

/-! ## Collapsing -/

/-- Collapses blanks, given whether the character before was blank. -/
def collapseAfter : Bool → List Char → List Char
  | _, [] => []
  | blankBefore, c :: cs =>
    if isBlank c then
      if blankBefore then collapseAfter true cs else ' ' :: collapseAfter true cs
    else c :: collapseAfter false cs

/-- Each maximal run of blanks becomes one space. -/
def collapse (cs : List Char) : List Char := collapseAfter false cs

/-! ## Cutting -/

/-- The pieces between the separators; a text without separator is its own only piece. -/
def cut (sep : Char) : List Char → List (List Char)
  | [] => [[]]
  | c :: cs =>
    if c = sep then [] :: cut sep cs
    else match cut sep cs with
      | [] => [[c]]
      | piece :: rest => (c :: piece) :: rest

/-- The text before and after the first separator, if there is one. -/
def cutOnce (sep : Char) : List Char → Option (List Char × List Char)
  | [] => none
  | c :: cs =>
    if c = sep then some ([], cs)
    else (cutOnce sep cs).map fun (before, after) => (c :: before, after)

/-- The first piece: everything before the first separator. -/
def beforeFirst (sep : Char) (cs : List Char) : List Char := cs.takeWhile (· != sep)

/-! ## ASCII case -/

/-- The lower case of an ASCII capital; every other character is its own. -/
def asciiLower (c : Char) : Char :=
  if 'A' ≤ c ∧ c ≤ 'Z' then Char.ofNat (c.toNat + 32) else c

/-- Equality up to the case of ASCII letters. -/
def sameIgnoringCase (a b : List Char) : Bool := a.map asciiLower == b.map asciiLower

/-- Whether `cs` starts with the characters of `word`. -/
def startsWith (word : String) (cs : List Char) : Bool := word.toList.isPrefixOf cs

end ReplicaRouter.Text
