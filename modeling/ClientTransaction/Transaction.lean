import ClientTransaction.Bookmark.Encoding
import ClientTransaction.Error
import ClientTransaction.Lifecycle

/-!
# Transaction — what is known of one transaction

A transaction has a state, a bookmark and a claim. The first terminal operation claims the
transaction; from then on no statement and no other terminal operation is accepted.
-/

namespace ClientTransaction

/-- A name under which the application holds a transaction. -/
structure Holding where
  name : String
  /-- It came with the transaction, and is not that of a further handle. -/
  own : Bool
  deriving DecidableEq, Repr

structure Transaction where
  /-- The name it was begun with. -/
  title : String
  /-- Whether its session listens for its end. -/
  reported : Bool
  state : State := .active
  bookmark : Bookmark := Bookmark.empty
  closing : Bool := false
  holdings : List Holding := []
  deriving Repr

namespace Transaction

def isOpen (t : Transaction) : Bool :=
  t.state.isOpen

/-- The session that is told of the end; it has the name of its transaction. -/
def session? (t : Transaction) : Option String :=
  if t.reported then some t.title else none

def markSuccess (t : Transaction) : Transaction :=
  { t with state := t.state.markSuccess }

def markFailure (t : Transaction) : Transaction :=
  { t with state := t.state.markFailure }

def markFailed (t : Transaction) : Transaction :=
  { t with state := t.state.markFailed }

def finalize (terminal : State) (t : Transaction) : Transaction :=
  { t with state := t.state.finalize terminal }

def claim (t : Transaction) : Transaction :=
  { t with closing := true }

/-- An empty bookmark never replaces a known one. -/
def setBookmark (b : Bookmark) (t : Transaction) : Transaction :=
  if b.isEmpty then t else { t with bookmark := b }

/-- A statement failed: after a recoverable error the transaction can still be rolled back. -/
def resultFailed (e : Error) (t : Transaction) : Transaction :=
  if e.isRecoverable then t.markFailure else t.markFailed

/-- Why a statement is refused, if it is. -/
def refusal? (t : Transaction) : Option Error :=
  if t.closing then some .statementWhileClosing
  else
    match t.state with
    | .active | .markedSuccess => none
    | .committed => some .statementAfterCommit
    | .markedFailed | .failed | .rolledBack => some .statementAfterFailure

/-! ## Handles of the application -/

def isHeldAs (t : Transaction) (name : String) : Bool :=
  t.holdings.any fun h => h.name = name

def hold (name : String) (own : Bool) (t : Transaction) : Transaction :=
  { t with holdings := t.holdings ++ [⟨name, own⟩] }

/-- Lets one handle go. -/
def letGo (name : String) (t : Transaction) : Transaction :=
  { t with holdings := t.holdings.filter fun h => h.name ≠ name }

/-! ## Text -/

/-- The text shown to a developer. -/
def describe (kind : String) (t : Transaction) : String :=
  kind ++ " \x7b core: TransactionCore \x7b id: TransactionId(ID), state: " ++ t.state.tag ++
    ", bookmark: Bookmark \x7b values: " ++ Text.quotedList t.bookmark.values ++
    " \x7d, closing: " ++ Json.writeBool t.closing ++ " \x7d, .. \x7d"

end Transaction

end ClientTransaction
