/-
Which texts are IP addresses: four decimal bytes, or up to eight groups of hexadecimal digits of
which one run may be left out and the last two may be written as four decimal bytes.
Each reader returns what follows the part it recognises.
-/
namespace ReplicaRouter.Address

def isDecimal (c : Char) : Bool := '0' ≤ c && c ≤ '9'

def isHexadecimal (c : Char) : Bool :=
  isDecimal c || ('a' ≤ c && c ≤ 'f') || ('A' ≤ c && c ≤ 'F')

/-- The number that decimal digits spell. -/
def decimalValue (digits : List Char) : Nat :=
  digits.foldl (fun n c => n * 10 + (c.toNat - '0'.toNat)) 0

/-- A byte in decimal: one to three digits up to 255, with no superfluous zero in front. -/
def byte? (cs : List Char) : Option (List Char) :=
  let digits := cs.takeWhile isDecimal
  let rest := cs.dropWhile isDecimal
  if digits.isEmpty || 3 < digits.length then none
  else if digits.head? == some '0' && 1 < digits.length then none
  else if 255 < decimalValue digits then none
  else some rest

/-- The character `c` in front. -/
def mark? (c : Char) : List Char → Option (List Char)
  | d :: rest => if d = c then some rest else none
  | [] => none

/-- Four decimal bytes between points. -/
def quad? (cs : List Char) : Option (List Char) := do
  let cs ← byte? cs
  let cs ← byte? (← mark? '.' cs)
  let cs ← byte? (← mark? '.' cs)
  byte? (← mark? '.' cs)

/-- One to four hexadecimal digits. -/
def group? (cs : List Char) : Option (List Char) :=
  let digits := cs.takeWhile isHexadecimal
  if digits.isEmpty || 4 < digits.length then none else some (cs.dropWhile isHexadecimal)

/-- What a run of groups amounts to. -/
structure Groups where
  /-- How many groups it stands for. -/
  count : Nat
  /-- Whether it ends in four decimal bytes. -/
  endsInQuad : Bool
  /-- The text after it. -/
  rest : List Char

/-- The longest run of at most `room` groups, where `start` tells that none was read yet. -/
def groups (start : Bool) : (room : Nat) → List Char → Groups
  | 0, cs => ⟨0, false, cs⟩
  | room + 1, cs =>
    let here := if start then some cs else mark? ':' cs
    match (if 0 < room then here.bind quad? else none) with
    | some rest => ⟨2, true, rest⟩
    | none => match here.bind group? with
      | some rest =>
        let more := groups false room rest
        { more with count := more.count + 1 }
      | none => ⟨0, false, cs⟩

/-- Eight groups, or fewer around `::`. -/
def sixteen? (cs : List Char) : Option (List Char) :=
  let front := groups true 8 cs
  if front.count = 8 then some front.rest
  else if front.endsInQuad then none
  else do
    let cs ← mark? ':' (← mark? ':' front.rest)
    return (groups true (7 - front.count) cs).rest

/-- Whether the whole text is an IP address. -/
def isAddress (cs : List Char) : Bool :=
  match quad? cs with
  | some rest => rest.isEmpty
  | none => match sixteen? cs with
    | some rest => rest.isEmpty
    | none => false

end ReplicaRouter.Address
