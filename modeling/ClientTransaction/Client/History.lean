import ClientTransaction.Client

/-!
# Client.History — what the history tells of a transaction

The history is one list of events for all transactions of a client. A view picks out what concerns
one transaction, or one handle, in the order in which it happened.
-/

namespace ClientTransaction

/-- What ends a transaction for those outside: its connection is given back, then its owner is
notified. -/
inductive Ending
  | released
  | notified
  deriving DecidableEq, Repr

/-- The terminal state of a transaction, once it has one. -/
def Transaction.final? (t : Transaction) : Option State :=
  if t.state.isTerminal then some t.state else none

namespace Event

@[simp]
def ending? (tx : Nat) : Event → Option Ending
  | .release owner => if owner = tx then some .released else none
  | .closed owner _ => if owner = tx then some .notified else none
  | _ => none

/-- The outcome of the PULL_ALL of an exchange. -/
@[simp]
def answer? (tx : Nat) (exchange : Exchange) : Event → Option Outcome
  | .reply owner e .pullAll given =>
      if owner = tx ∧ e = exchange then some given.outcome else none
  | _ => none

/-- The start of a COMMIT or ROLLBACK exchange. -/
@[simp]
def terminalExchange? (tx : Nat) : Event → Option Exchange
  | .run owner .commit _ _ => if owner = tx then some .commit else none
  | .run owner .rollback _ _ => if owner = tx then some .rollback else none
  | _ => none

/-- A call on the connection, or its failure. -/
@[simp]
def call? (tx : Nat) : Event → Option Event
  | .run owner e statement params =>
      if owner = tx then some (.run owner e statement params) else none
  | .pullAll owner e => if owner = tx then some (.pullAll owner e) else none
  | .flush owner => if owner = tx then some (.flush owner) else none
  | .sync owner => if owner = tx then some (.sync owner) else none
  | .refused owner => if owner = tx then some (.refused owner) else none
  | _ => none

/-- A handle is resolved while someone waits for it. -/
@[simp]
def wake? (handle : Nat) : Event → Option String
  | .wake place name => if place = handle then some name else none
  | _ => none

end Event

namespace Client

/-- The events that `view` picks out. -/
def seen {α : Type} (s : Client) (view : Event → Option α) : List α :=
  s.history.filterMap view

/-- How a transaction was ended for those outside. -/
def endings (s : Client) (tx : Nat) : List Ending :=
  s.seen (Event.ending? tx)

/-- The outcomes of the PULL_ALLs of the exchanges of one kind. -/
def answers (s : Client) (tx : Nat) (exchange : Exchange) : List Outcome :=
  s.seen (Event.answer? tx exchange)

/-- The exchanges that were started to end a transaction. -/
def terminalExchanges (s : Client) (tx : Nat) : List Exchange :=
  s.seen (Event.terminalExchange? tx)

/-- The calls on the connection that were made for a transaction. -/
def calls (s : Client) (tx : Nat) : List Event :=
  s.seen (Event.call? tx)

/-- The times at which someone was woken who waited for a handle. -/
def wakes (s : Client) (handle : Nat) : List String :=
  s.seen (Event.wake? handle)

/-- The terminal state of a transaction, once it has one. -/
def final? (s : Client) (tx : Nat) : Option State :=
  s.transactions[tx]?.bind Transaction.final?

end Client

end ClientTransaction
