import ReplicaRouter.Toml.Lexical
import ReplicaRouter.Toml.Value
/-
Numbers and dates of a TOML text. Integers are read as numbers; floats and dates are only checked.
-/
namespace ReplicaRouter.Toml

/-- What was read, as it was written: the part of `cs` before `rest`. -/
def spelling (cs rest : List Char) : String := String.ofList (cs.take (cs.length - rest.length))

/-- Whether there is a minus sign, and the text after a sign if there is one. -/
def sign : List Char → Bool × List Char
  | '-' :: rest => (true, rest)
  | '+' :: rest => (false, rest)
  | cs => (false, cs)

/-- Decimal digits without a superfluous zero in front. -/
def plainDigits? : List Char → Option (List Char × List Char)
  | '0' :: rest => some (['0'], rest)
  | cs => digits? isDigit cs

/-- An integer that fits a document. -/
def fitting (n : Int) (rest : List Char) : Option (Value × List Char) :=
  if fits n then some (.integer n, rest) else none

/-- An integer in one of the four bases; only decimal ones have a sign. -/
def integer? : List Char → Option (Value × List Char)
  | '0' :: 'x' :: rest => (digits? (isDigitOf 16) rest).bind fun (ds, rest) => fitting (number 16 ds) rest
  | '0' :: 'o' :: rest => (digits? (isDigitOf 8) rest).bind fun (ds, rest) => fitting (number 8 ds) rest
  | '0' :: 'b' :: rest => (digits? (isDigitOf 2) rest).bind fun (ds, rest) => fitting (number 2 ds) rest
  | cs =>
    let (negative, cs) := sign cs
    (plainDigits? cs).bind fun (ds, rest) =>
      fitting (if negative then -(number 10 ds : Int) else (number 10 ds : Int)) rest

/-! ## Floats -/

/-- Whether `mantissa · 10 ^ exponent` rounds beyond the largest double, that is, reaches
`2 ^ 1024 - 2 ^ 970`. -/
def overflows (mantissa : Nat) (exponent : Int) : Bool :=
  if mantissa = 0 then false
  else
    let size : Int := (Nat.toDigits 10 mantissa).length + exponent
    if 310 < size then true
    else if size < 308 then false
    else
      let bound := Nat.pow 2 1024 - Nat.pow 2 970
      if 0 ≤ exponent then bound ≤ mantissa * Nat.pow 10 exponent.toNat
      else bound * Nat.pow 10 (-exponent).toNat ≤ mantissa

/-- The digits after the point, if there is one. -/
def fraction? : List Char → Option (List Char × List Char)
  | '.' :: rest => digits? isDigit rest
  | _ => none

/-- The power of ten, if there is one. -/
def exponent? : List Char → Option (Int × List Char)
  | c :: rest =>
    if c = 'e' ∨ c = 'E' then
      let (negative, rest) := sign rest
      (digits? isDigit rest).map fun (ds, rest) =>
        (if negative then -(number 10 ds : Int) else (number 10 ds : Int), rest)
    else none
  | [] => none

/-- A float with a fraction, a power of ten or both. One that would exceed every double is
refused, except a negative one. -/
def decimalFloat? (cs : List Char) : Option (Value × List Char) := do
  let (negative, start) := sign cs
  let (whole, rest) ← plainDigits? start
  let (fraction, exponent, rest) ←
    match fraction? rest with
    | some (fraction, rest) =>
      match exponent? rest with
      | some (exponent, rest) => some (fraction, exponent, rest)
      | none => some (fraction, 0, rest)
    | none => (exponent? rest).map fun (exponent, rest) => ([], exponent, rest)
  if !negative && overflows (number 10 (whole ++ fraction)) (exponent - fraction.length) then none
  else some (.float (spelling cs rest), rest)

/-- An infinity or a missing number, with or without a sign. -/
def specialFloat? (cs : List Char) : Option (Value × List Char) :=
  match (sign cs).2 with
  | 'i' :: 'n' :: 'f' :: rest => some (.float (spelling cs rest), rest)
  | 'n' :: 'a' :: 'n' :: rest => some (.float (spelling cs rest), rest)
  | _ => none

/-! ## Dates and times -/

/-- How many days a month has. -/
def daysIn (year month : Nat) : Nat :=
  if month = 2 then
    if year % 4 = 0 ∧ (year % 100 ≠ 0 ∨ year % 400 = 0) then 29 else 28
  else if month = 4 ∨ month = 6 ∨ month = 9 ∨ month = 11 then 30
  else 31

/-- A day of the calendar. -/
def day? (cs : List Char) : Option (List Char) := do
  let (year, rest) ← fixedDigits? 4 cs
  let (month, rest) ← fixedDigits? 2 (← after? '-' rest)
  let (day, rest) ← fixedDigits? 2 (← after? '-' rest)
  if 1 ≤ month ∧ month ≤ 12 ∧ 1 ≤ day ∧ day ≤ daysIn year month then some rest else none

/-- Hours and minutes. -/
def clock? (cs : List Char) : Option (List Char) := do
  let (hour, rest) ← fixedDigits? 2 cs
  let (minute, rest) ← fixedDigits? 2 (← after? ':' rest)
  if hour ≤ 23 ∧ minute ≤ 59 then some rest else none

/-- A time of day, seconds included, with any number of decimals. -/
def time? (cs : List Char) : Option (List Char) := do
  let (second, rest) ← fixedDigits? 2 (← after? ':' (← clock? cs))
  if 60 < second then none
  else match rest with
    | '.' :: d :: more => if isDigit d then some (more.dropWhile isDigit) else none
    | '.' :: [] => none
    | rest => some rest

/-- A distance from universal time, if there is one. -/
def skipOffset : List Char → Option (List Char)
  | 'Z' :: rest => some rest
  | 'z' :: rest => some rest
  | '+' :: rest => clock? rest
  | '-' :: rest => clock? rest
  | rest => some rest

/-- A day, a day with a time, or a time. -/
def date? (cs : List Char) : Option (Value × List Char) :=
  match day? cs with
  | some rest =>
    let timed := match rest with
      | c :: more => if c = 'T' ∨ c = 't' ∨ c = ' ' then (time? more).bind skipOffset else none
      | [] => none
    let rest := timed.getD rest
    some (.date (spelling cs rest), rest)
  | none => (time? cs).map fun rest => (.date (spelling cs rest), rest)

/-- A date, a float or an integer, tried in this order. -/
def numeric? (cs : List Char) : Option (Value × List Char) :=
  date? cs <|> decimalFloat? cs <|> specialFloat? cs <|> integer? cs

end ReplicaRouter.Toml
