/-!
# Toml — configuration documents

A document is a table of named items. Where a table comes from decides what may still be added to
it: a table that was written out under a header or in braces is closed to dotted keys, and one that
only stands on the way to another may still get a header of its own.
-/

namespace ClientTransaction.Toml

/-- Where a table comes from. -/
inductive Origin
  /-- A header or a pair of braces of its own. -/
  | written
  /-- It stands on the way to a table that has a header. -/
  | implied
  /-- It stands on the way to the last part of a dotted key. -/
  | dotted
  deriving DecidableEq, Repr

/-- Values without parts. Nothing here asks for the value of a float or a date. -/
inductive Scalar
  | integer (i : Int)
  | float
  | boolean (b : Bool)
  | dateTime
  deriving DecidableEq, Repr

inductive Item
  | string (s : String)
  | scalar (value : Scalar)
  | array (items : List Item)
  /-- A table in braces, or on the way of a dotted key inside braces. -/
  | inlineTable (origin : Origin) (entries : List (String × Item))
  | table (origin : Origin) (entries : List (String × Item))
  /-- Tables that share a header in double brackets. -/
  | tables (tables : List (List (String × Item)))
  deriving Repr, Inhabited

/-- What a table holds, in the order in which it was written. -/
abbrev Entries :=
  List (String × Item)

/-- Replaces the item under a key. -/
def Entries.replace (entries : Entries) (key : String) (item : Item) : Entries :=
  entries.map fun (k, old) => if k = key then (k, item) else (k, old)

/-- Arrays and tables in braces that may stand inside one another, and parts that a dotted key may
have. -/
def depthLimit : Nat :=
  79

end ClientTransaction.Toml
