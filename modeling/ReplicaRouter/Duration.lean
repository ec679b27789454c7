/-
Lengths of time and points in time, both counted in nanoseconds, and the two ways a length is
written: compact for people (`1m30s`) and exact inside log lines (`1.5s`).
-/
namespace ReplicaRouter

/-- A point in time: nanoseconds since the clock started. -/
abbrev Instant := Nat

/-- A length of time in nanoseconds. -/
structure Duration where
  nanos : Nat
  deriving DecidableEq, Repr, Inhabited

namespace Duration

def ofMillis (n : Nat) : Duration := ⟨n * 1000000⟩

def ofSeconds (n : Nat) : Duration := ⟨n * 1000000000⟩

def millis (d : Duration) : Nat := d.nanos / 1000000

def seconds (d : Duration) : Nat := d.nanos / 1000000000

/-- The compact text: milliseconds below a second, then seconds, minutes and hours. -/
def compact (d : Duration) : String :=
  let s := d.seconds
  if s = 0 ∧ 0 < d.millis then s!"{d.millis}ms"
  else if s < 60 then s!"{s}s"
  else if s < 3600 then s!"{s / 60}m{s % 60}s"
  else s!"{s / 3600}h{s % 3600 / 60}m{s % 60}s"

/-- A fraction of `1 / 10 ^ places` units as decimals, without trailing zeros and point if none
is left. -/
def decimals (fraction places : Nat) : String :=
  if fraction = 0 then ""
  else
    let digits := Nat.toDigits 10 (fraction + Nat.pow 10 places)
    "." ++ String.ofList (((digits.drop 1).reverse.dropWhile (· == '0')).reverse)

/-- The exact text, in the largest unit that leaves a whole part. -/
def exact (d : Duration) : String :=
  if 1000000000 ≤ d.nanos then
    s!"{d.seconds}" ++ decimals (d.nanos % 1000000000) 9 ++ "s"
  else if 1000000 ≤ d.nanos then
    s!"{d.millis}" ++ decimals (d.nanos % 1000000) 6 ++ "ms"
  else if 1000 ≤ d.nanos then
    s!"{d.nanos / 1000}" ++ decimals (d.nanos % 1000) 3 ++ "µs"
  else s!"{d.nanos}ns"

end Duration

end ReplicaRouter
