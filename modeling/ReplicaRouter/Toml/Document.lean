import ReplicaRouter.Toml.Value
/-
How the lines of a document build its table. A table is opened by its own header, or implied by a
longer header, or made by a dotted key; which of the three it was decides what may still be added
to it.
-/
namespace ReplicaRouter.Toml

/-- How a table came to be. -/
inductive Origin where
  /-- By its own header, or in braces. -/
  | header
  /-- As a part of a longer header. -/
  | implied
  /-- As a part of a dotted key. -/
  | dotted
  deriving DecidableEq

/-- A document under construction. -/
inductive Node where
  /-- A finished value. -/
  | value (v : Value)
  /-- A table that may still grow. -/
  | table (origin : Origin) (entries : List (String × Node))
  /-- A list of tables, each opened by its own header, the latest first. -/
  | series (tables : List (List (String × Node)))

/-- A table's entries while it is under construction. -/
abbrev Entries := List (String × Node)

namespace Entries

def find (key : String) (entries : Entries) : Option Node :=
  (entries.find? fun entry => entry.1 == key).map Prod.snd

/-- The entries with a node under a key: in its place if the key is there, at the end if not. -/
def set (key : String) (node : Node) : Entries → Entries
  | [] => [(key, node)]
  | entry :: rest => if entry.1 == key then (key, node) :: rest else entry :: set key node rest

def without (key : String) (entries : Entries) : Entries := entries.filter fun entry => entry.1 != key

/-- Changes the table at the end of a path, making the tables on the way that are missing with the
given origin. A dotted path may not pass through a table that has its own header, and no path
passes through a finished value. In a list of tables the latest one is meant. -/
def descend (origin : Origin) (change : Origin → Entries → Option Entries) :
    List String → Origin → Entries → Option Entries
  | [], here, entries => change here entries
  | key :: path, _, entries =>
    match find key entries with
    | none => do
      let inner ← descend origin change path origin []
      return set key (.table origin inner) entries
    | some (.value _) => none
    | some (.series []) => none
    | some (.series (latest :: older)) => do
      let inner ← descend origin change path .header latest
      return set key (.series (inner :: older)) entries
    | some (.table there inner) =>
      if origin = .dotted ∧ there = .header then none
      else do
        let inner ← descend origin change path there inner
        return set key (.table there inner) entries

/-- Assigns a value to a dotted key, seen from the table it stands in. A table made by dotted keys
takes values through dotted keys only, and every other table takes values under plain keys. -/
def assign (path : List String) (key : String) (v : Value) (origin : Origin) (entries : Entries) :
    Option Entries :=
  descend .dotted
    (fun there inner =>
      if (there == .dotted) == path.isEmpty then none
      else if (find key inner).isSome then none
      else some (inner ++ [(key, .value v)]))
    path origin entries

/-- Opens the table of a header. A table may be opened once, after having been implied at most; it
then moves to the end of its parent. -/
def openTable (path : List String) (key : String) (root : Entries) : Option Entries :=
  descend .implied
    (fun _ parent =>
      match find key parent with
      | none => some (parent ++ [(key, .table .header [])])
      | some (.table .implied inner) => some (without key parent ++ [(key, .table .header inner)])
      | some _ => none)
    path .header root

/-- Opens one more table of a list of tables. -/
def openNext (path : List String) (key : String) (root : Entries) : Option Entries :=
  descend .implied
    (fun _ parent =>
      match find key parent with
      | none => some (parent ++ [(key, .series [[]])])
      | some (.series tables) => some (set key (.series ([] :: tables)) parent)
      | some _ => none)
    path .header root

/-- Assigns a value to a dotted key inside the table of a header. -/
def assignUnder (header : List String) (path : List String) (key : String) (v : Value)
    (root : Entries) : Option Entries :=
  descend .implied (fun there inner => assign path key v there inner) header .header root

end Entries

mutual

/-- The finished value of a node, which `inBraces` says to stand in braces or not. -/
def Node.finish (inBraces : Bool) : Node → Value
  | .value v => v
  | .table _ entries => .table inBraces (finishEntries inBraces entries)
  | .series tables => .array (finishSeries inBraces tables)

/-- The finished values of entries. -/
def finishEntries (inBraces : Bool) : List (String × Node) → List (String × Value)
  | [] => []
  | (key, node) :: rest => (key, node.finish inBraces) :: finishEntries inBraces rest

/-- The finished tables of a list of tables, in the order of their headers. -/
def finishSeries (inBraces : Bool) : List (List (String × Node)) → List Value
  | [] => []
  | entries :: older =>
    finishSeries inBraces older ++ [.table inBraces (finishEntries inBraces entries)]

end

end ReplicaRouter.Toml
