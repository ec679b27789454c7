/-
The values of a TOML document. Floats and dates keep their spelling only, since nothing here
computes with them.
-/
namespace ReplicaRouter.Toml

inductive Value where
  | text (s : String)
  | integer (n : Int)
  | boolean (b : Bool)
  /-- A float as it was written. -/
  | float (spelling : String)
  /-- A date, a time or both as they were written. -/
  | date (spelling : String)
  | array (items : List Value)
  /-- A table with its entries in the order in which they appear; `inBraces` tells a table written
  as a value from one made by headers and dotted keys. -/
  | table (inBraces : Bool) (entries : List (String × Value))
  deriving Inhabited

def lookup (key : String) (entries : List (String × Value)) : Option Value :=
  (entries.find? fun entry => entry.1 == key).map Prod.snd

/-- The integers that a document can hold: those of 64 bits with a sign. -/
def fits (n : Int) : Bool := -9223372036854775808 ≤ n && n ≤ 9223372036854775807

end ReplicaRouter.Toml
