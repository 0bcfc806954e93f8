import ClientTransaction.Connection
import ClientTransaction.Cursor
import ClientTransaction.Handle
import ClientTransaction.Transaction

/-!
# Client — transactions that share a connection

A client holds the transactions, cursors and handles that were ever made, each known by its place,
the connection that they share, and the history of what happened. Nothing is removed: what the
application has let go of has no name any more.
-/

namespace ClientTransaction

/-- What a handle can yield. -/
inductive Payload
  | unit
  | transaction (tx : Nat)
  | summary (metadata : Params)
  deriving Repr

/-- What happened, with the transaction on whose behalf it happened. -/
inductive Event
  | run (tx : Nat) (exchange : Exchange) (statement : String) (params : Params)
  | pullAll (tx : Nat) (exchange : Exchange)
  | flush (tx : Nat)
  | sync (tx : Nat)
  /-- The call before this event failed. -/
  | refused (tx : Nat)
  /-- A request came to its end. -/
  | reply (tx : Nat) (exchange : Exchange) (part : Part) (reply : Reply)
  /-- The transaction was told that the results of a statement had come. -/
  | fetched (tx cursor : Nat)
  /-- The transaction was told that a statement had failed. -/
  | statementFailed (tx cursor : Nat) (e : Error)
  /-- The transaction gave its connection back. -/
  | release (tx : Nat)
  /-- The owner of the transaction was notified; `session` is its name, if it listens. -/
  | closed (tx : Nat) (session : Option String)
  /-- Someone who waited for a handle was woken. -/
  | wake (handle : Nat) (name : String)
  deriving Repr

structure Client where
  transactions : List Transaction := []
  cursors : List Cursor := []
  handles : List (Handle Payload) := []
  connection : Connection := {}
  history : List Event := []
  deriving Repr

namespace Client

def record (s : Client) (e : Event) : Client :=
  { s with history := s.history ++ [e] }

def updateTransaction (s : Client) (tx : Nat) (f : Transaction → Transaction) : Client :=
  { s with transactions := s.transactions.modify tx f }

def updateCursor (s : Client) (cursor : Nat) (f : Cursor → Cursor) : Client :=
  { s with cursors := s.cursors.modify cursor f }

def updateConnection (s : Client) (f : Connection → Connection) : Client :=
  { s with connection := f s.connection }

/-! ## New things -/

/-- Adds a transaction; its place is the number of those before it. -/
def addTransaction (s : Client) (t : Transaction) : Client :=
  { s with transactions := s.transactions ++ [t] }

def addCursor (s : Client) (c : Cursor) : Client :=
  { s with cursors := s.cursors ++ [c] }

def addHandle (s : Client) (h : Handle Payload) : Client :=
  { s with handles := s.handles ++ [h] }

/-! ## Requests -/

/-- Sends a RUN and a PULL_ALL. -/
def send (s : Client) (tx : Nat) (exchange : Exchange) (statement : String) (params : Params)
    (onRun onPull : Handler) : Client :=
  let s := (s.record (.run tx exchange statement params)).updateConnection
    fun c => c.run tx exchange statement onRun
  (s.record (.pullAll tx exchange)).updateConnection fun c => c.pullAll tx exchange onPull

/-! ## The end of a transaction -/

/-- Finalizes the transaction, gives its connection back and notifies its owner. -/
def release (s : Client) (tx : Nat) : Client :=
  ((s.updateTransaction tx (Transaction.finalize .rolledBack)).record (.release tx)).record
    (.closed tx (s.transactions[tx]?.bind Transaction.session?))

/-! ## Handles -/

/-- An outcome arrives at a handle, and whoever waits for it is woken. -/
def resolve (s : Client) (handle : Nat) (result : Except Error Payload) : Client :=
  match s.handles[handle]? with
  | none => s
  | some h =>
      -- The outcome is there before anyone is woken for it.
      let s := { s with handles := s.handles.set handle (h.resolve result) }
      match h.sleeper? with
      | some name => s.record (.wake handle name)
      | none => s

/-- Several handles get the same outcome, in order. -/
def resolveAll (s : Client) (handles : List Nat) (result : Except Error Payload) : Client :=
  handles.foldl (fun s handle => s.resolve handle result) s

/-! ## Cursors -/

/-- The stream of a statement ends. The first outcome stands; the answer tells whether it is this
one. -/
def completeCursor (s : Client) (cursor : Nat) (outcome : Except Error Params) : Bool × Client :=
  match s.cursors[cursor]? with
  | none => (false, s)
  | some c =>
      if c.isComplete then (false, s)
      else
        (true, (s.updateCursor cursor fun c => c.complete outcome).resolveAll c.waiters
          (outcome.map Payload.summary))

/-- The stream of a statement succeeds, and its transaction is told so. -/
def finishCursor (s : Client) (tx cursor : Nat) (summary : Params) : Client :=
  (s.completeCursor cursor (.ok summary)).2.record (.fetched tx cursor)

/-- The stream of a statement fails, and its transaction is told and marked, unless the stream had
ended. -/
def failCursor (s : Client) (tx cursor : Nat) (e : Error) : Client :=
  match s.completeCursor cursor (.error e) with
  | (true, s) =>
      (s.record (.statementFailed tx cursor e)).updateTransaction tx (Transaction.resultFailed e)
  | (false, s) => s

/-- Whether the application or one of the given requests holds the cursor. -/
def holdsCursor (s : Client) (requests : List Request) (cursor : Nat) : Bool :=
  (s.cursors[cursor]?.any fun c => c.name.isSome) || requests.any fun r => r.holdsCursor cursor

/-- If nobody holds the cursor any more, those who wait for its outcome learn that none comes. -/
def releaseCursor (s : Client) (requests : List Request) (cursor : Nat) : Client :=
  if s.holdsCursor requests cursor then s
  else
    match s.cursors[cursor]? with
    | none => s
    | some c =>
        (s.updateCursor cursor fun c => { c with waiters := [] }).resolveAll c.waiters
          (.error .completionDropped)

/-- The application lets a cursor go. -/
def dropCursor (s : Client) (cursor : Nat) : Client :=
  (s.updateCursor cursor fun c => { c with name := none }).releaseCursor s.connection.queue cursor

end Client

end ClientTransaction
