import ReplicaRouter.Text.Blank
/-
Which texts are log filters: directives between commas, each a level, a target, or a target or
span with a level after an equals sign.
-/
namespace ReplicaRouter.CommandLine

open Text

/-- Why a text is not a log filter. -/
inductive FilterError where
  | directive
  /-- What should be a level is none. -/
  | level
  deriving DecidableEq, Repr

/-- The messages of a filter error, from the outermost cause inwards. -/
def FilterError.causes : FilterError → List String
  | directive => ["invalid filter directive"]
  | level =>
    let m := "error parsing level filter: expected one of " ++
      "\"off\", \"error\", \"warn\", \"info\", \"debug\", \"trace\", or a number 0-5"
    [m, m]

/-- Whether digits spell a number of at most five. -/
def isLevelNumber (cs : List Char) : Bool :=
  let digits := match cs with
    | '+' :: rest => rest
    | _ => cs
  !digits.isEmpty && digits.all (fun c => '0' ≤ c && c ≤ '9') &&
    digits.foldl (fun n c => n * 10 + (c.toNat - '0'.toNat)) 0 ≤ 5

/-- Whether a text is a level: a number up to five, nothing, or a name in any case. -/
def isLevel (cs : List Char) : Bool :=
  isLevelNumber cs || cs.isEmpty ||
    ["error", "warn", "info", "debug", "trace", "off"].any fun name => sameIgnoringCase name.toList cs

/-- The parts of a directive. -/
inductive DirectivePart where
  | start
  /-- A level or the name of a target. -/
  | levelOrTarget
  | span
  /-- A field of a span, with nothing or something read of it. -/
  | field (isEmpty : Bool)
  | afterFields
  | afterSpan
  /-- A level, with what has been read of it. -/
  | level (read : List Char)

/-- The part of a directive after one more character. -/
def DirectivePart.next (part : DirectivePart) (c : Char) : Except FilterError DirectivePart :=
  match part with
  | .start =>
    if c = '[' then .ok .span
    else if c = '-' ∨ c = ':' ∨ c = '_' ∨ c.isAlphanum ∨ 0x80 ≤ c.toNat then .ok .levelOrTarget
    else .error .directive
  | .levelOrTarget =>
    if c = '=' then .ok (.level [])
    else if c = '[' then .ok .span
    else .ok .levelOrTarget
  | .span =>
    if c = ']' then .ok .afterSpan
    else if c = '\x7b' then .ok (.field true)
    else .ok .span
  | .field isEmpty =>
    if c = '\x7d' then (if isEmpty then .error .directive else .ok .afterFields)
    else .ok (.field false)
  | .afterFields => if c = ']' then .ok .afterSpan else .error .directive
  | .afterSpan => if c = '=' then .ok (.level []) else .error .directive
  | .level read => .ok (.level (read ++ [c]))

/-- Checks that a directive may end here. -/
def DirectivePart.finish : DirectivePart → Except FilterError Unit
  | .levelOrTarget => .ok ()
  | .afterSpan => .ok ()
  | .level read => if isLevel read then .ok () else .error .level
  | _ => .error .directive

def checkDirective (cs : List Char) : Except FilterError Unit := do
  (← (trim cs).foldlM DirectivePart.next .start).finish

def checkFilter (s : String) : Except FilterError Unit :=
  if s.isEmpty then .ok () else (cut ',' s.toList).forM checkDirective

end ReplicaRouter.CommandLine
