import ClientTransaction.Value

/-!
# Bookmark — points in the server's log

A successful commit yields a bookmark. The next BEGIN carries it, so that the server first catches
up to that point. A bookmark holds any number of values; BEGIN receives the newest of them and the
whole list.
-/

namespace ClientTransaction

structure Bookmark where
  values : List String
  deriving DecidableEq, Repr, Inhabited

namespace Bookmark

def empty : Bookmark :=
  ⟨[]⟩

/-- The bookmark with these values; empty texts are left out. -/
def ofValues (values : List String) : Bookmark :=
  ⟨values.filter fun v => v ≠ ""⟩

def ofString (value : String) : Bookmark :=
  ofValues [value]

def isEmpty (b : Bookmark) : Bool :=
  b.values.isEmpty

/-! ## The newest value -/

/-- What precedes the transaction number in a value that can be compared. -/
def numberedStart : List Char :=
  ['n', 'e', 'o', '4', 'j', ':', 'b', 'o', 'o', 'k', 'm', 'a', 'r', 'k', ':', 'v', '1', ':',
    't', 'x']

/-- The number that decimal digits spell. -/
def digitsValue (digits : List Char) : Nat :=
  digits.foldl (fun n c => n * 10 + (c.toNat - '0'.toNat)) 0

/-- An unsigned integer of 64 bits: an optional plus sign and one digit or more. -/
def unsigned? (cs : List Char) : Option Nat :=
  let digits := match cs with
    | '+' :: rest => rest
    | cs => cs
  if digits ≠ [] ∧ digits.all Char.isDigit ∧ digitsValue digits < Nat.pow 2 64 then
    some (digitsValue digits)
  else none

/-- The transaction number of a value that has one. -/
def transactionNumber? (value : String) : Option Nat :=
  if numberedStart.isPrefixOf value.toList then
    unsigned? (value.toList.drop numberedStart.length)
  else none

/-- The numbered value with the greatest number; of equal numbers the last value stands. -/
def newestNumbered? (values : List String) : Option (Nat × String) :=
  values.foldl
    (fun newest value =>
      match transactionNumber? value, newest with
      | none, newest => newest
      | some n, none => some (n, value)
      | some n, some (m, earlier) => if m ≤ n then some (n, value) else some (m, earlier))
    none

/-- The newest value; if no value is numbered, the first one. -/
def newest? (b : Bookmark) : Option String :=
  match newestNumbered? b.values with
  | some (_, value) => some value
  | none => b.values.head?

/-- What BEGIN is told: the newest value and every value, or nothing for the empty bookmark. -/
def beginParameters (b : Bookmark) : Params :=
  match b.newest? with
  | some newest =>
      [("bookmark", .string newest), ("bookmarks", .list (b.values.map .string))]
  | none => []

end Bookmark

end ClientTransaction
