import ClientTransaction.Error
import ClientTransaction.Value

/-!
# Cursor — the results of a statement

A cursor collects what the server sends for one statement: the names of the columns, the rows, and
at last a summary or an error. The first of these outcomes stands. Callers who asked for it earlier
wait in order of their requests.
-/

namespace ClientTransaction

/-- A row, with the columns that were known when it arrived. -/
structure Record where
  keys : List String
  values : List Value
  deriving Repr

/-- The value of a column: the one at the first place where the column is named. -/
def Record.get? (r : Record) (key : String) : Option Value :=
  (r.keys.findIdx? fun k => k = key).bind fun i => r.values[i]?

structure Cursor where
  statement : String
  /-- The transaction that ran the statement, by its place. -/
  owner : Nat
  /-- The name under which the application holds the cursor. -/
  name : Option String := none
  keys : List String := []
  records : List Record := []
  outcome : Option (Except Error Params) := none
  /-- The handles of those who wait for the outcome, by their places. -/
  waiters : List Nat := []
  deriving Repr

namespace Cursor

def isComplete (c : Cursor) : Bool :=
  c.outcome.isSome

def summary? (c : Cursor) : Option Params :=
  match c.outcome with
  | some (.ok summary) => some summary
  | _ => none

def error? (c : Cursor) : Option Error :=
  match c.outcome with
  | some (.error e) => some e
  | _ => none

def setKeys (c : Cursor) (keys : List String) : Cursor :=
  { c with keys := keys }

/-- Adds a row under the present columns. -/
def push (c : Cursor) (values : List Value) : Cursor :=
  { c with records := c.records ++ [⟨c.keys, values⟩] }

/-- Settles the outcome and lets the waiting callers go. -/
def complete (c : Cursor) (outcome : Except Error Params) : Cursor :=
  { c with outcome := some outcome, waiters := [] }

def await (c : Cursor) (handle : Nat) : Cursor :=
  { c with waiters := c.waiters ++ [handle] }

end Cursor

end ClientTransaction
