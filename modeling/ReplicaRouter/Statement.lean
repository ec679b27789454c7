import ReplicaRouter.Text.Blank
import ReplicaRouter.Text.Case
/-
What the text of a statement tells about transactions, without parsing it: whether it opens or
closes one, whether it changes data, and whether it sets autocommit. Only the first statement of a
text counts; block comments are taken out and letter case is ignored. Quoting is not understood.
-/
namespace ReplicaRouter.Statement

open Text

/-! ## The first statement -/

/-- The statements of a text, with white space collapsed; a blank text holds none. -/
def split (sql : List Char) : List (List Char) :=
  if (trim sql).isEmpty then [] else cut ';' (collapse sql)

/-- What follows the end of a block comment, if it is closed. -/
def afterClose : List Char → Option (List Char)
  | '*' :: '/' :: rest => some rest
  | _ :: rest => afterClose rest
  | [] => none

/-- What follows a block comment that starts after blanks, if there is one. -/
def afterComment (cs : List Char) : Option (List Char) :=
  match trimStart cs with
  | '/' :: '*' :: body => afterClose body
  | _ => none

theorem length_afterClose {cs rest : List Char} (h : afterClose cs = some rest) :
    rest.length < cs.length := by
  fun_induction afterClose cs with
  | case1 r => cases h; simp only [List.length_cons]; omega
  | case2 c r _ ih => have := ih h; simp only [List.length_cons]; omega
  | case3 => simp at h

theorem length_trimStart (cs : List Char) : (trimStart cs).length ≤ cs.length :=
  (List.dropWhile_suffix _).length_le

theorem length_afterComment {cs rest : List Char} (h : afterComment cs = some rest) :
    rest.length < cs.length := by
  have hle := length_trimStart cs
  unfold afterComment at h
  split at h
  next body heq =>
    have := length_afterClose h
    simp only [heq, List.length_cons] at hle
    omega
  next => simp at h

/-- The text with every closed block comment, and the blanks around it, replaced by a space. -/
def withoutComments : List Char → List Char
  | [] => []
  | c :: cs =>
    match _closed : afterComment (c :: cs) with
    | some rest => ' ' :: withoutComments (trimStart rest)
    | none => c :: withoutComments cs
termination_by cs => cs.length
decreasing_by
  · have := length_afterComment _closed
    have := length_trimStart rest
    omega
  · simp

/-- The first statement in capitals, without comments and outer blanks. -/
def first? (sql : List Char) : Option (List Char) :=
  (split sql).head?.map fun statement => trim (withoutComments (upper statement))

/-! ## Classes of statements -/

/-- What a normalised statement does. -/
inductive Kind where
  | empty
  /-- It opens a transaction. -/
  | opener
  /-- It closes the open transaction. -/
  | closer
  | setting
  /-- It reads or writes data. -/
  | data
  deriving DecidableEq, Repr

def isOpener (s : List Char) : Bool := startsWith "BEGIN" s || startsWith "START TRANSACTION" s

def isCloser (s : List Char) : Bool :=
  startsWith "COMMIT" s || startsWith "ROLLBACK" s || startsWith "END" s || startsWith "ABORT" s

def isSetting (s : List Char) : Bool := startsWith "SET " s

/-- The kind of a normalised statement: data is whatever is none of the others. -/
def Kind.of (s : List Char) : Kind :=
  if s.isEmpty then .empty
  else if isOpener s then .opener
  else if isCloser s then .closer
  else if isSetting s then .setting
  else .data

def kind (sql : List Char) : Kind := (first? sql).elim .empty Kind.of

/-! ## Questions about a text -/

/-- Whether the text, run with this autocommit mode, leaves a transaction open: an opener always
does, and data does when autocommit is off. -/
def opensTransaction (sql : List Char) (autocommit : Bool) : Bool :=
  match kind sql with
  | .opener => true
  | .data => !autocommit
  | _ => false

/-- Whether the text ends the current transaction. -/
def closesTransaction (sql : List Char) : Bool := kind sql == .closer

/-- Whether the text reads or writes data. -/
def isData (sql : List Char) : Bool := kind sql == .data

/-- Whether the text assigns the autocommit mode. -/
def setsAutocommit (sql : List Char) : Bool :=
  match first? sql with
  | some s => startsWith "SET AUTOCOMMIT" s
  | none => false

/-- The truth value spelled by `0`, `1`, `false` or `true` in any case. -/
def truthValue? (cs : List Char) : Option Bool :=
  let cs := cs.map asciiLower
  if cs = "false".toList ∨ cs = "0".toList then some false
  else if cs = "true".toList ∨ cs = "1".toList then some true
  else none

/-- The value that stands between the first `=` of the text and the next `;`, when it is one. -/
def autocommitValue? (sql : List Char) : Option Bool :=
  match cutOnce '=' (trim sql) with
  | some (_, assigned) => truthValue? (trim (beforeFirst ';' assigned))
  | none => none

/-- Everything the library tells about a text. -/
structure Classification where
  first : Option (List Char)
  opens : Bool
  closes : Bool
  isData : Bool
  setsAutocommit : Bool
  /-- The assigned mode, where one is assigned and recognised. -/
  value : Option Bool

/-- The classification of a text under an autocommit mode. -/
def classify (sql : List Char) (autocommit : Bool) : Classification where
  first := first? sql
  opens := opensTransaction sql autocommit
  closes := closesTransaction sql
  isData := isData sql
  setsAutocommit := setsAutocommit sql
  value := if setsAutocommit sql then autocommitValue? sql else none

end ReplicaRouter.Statement
