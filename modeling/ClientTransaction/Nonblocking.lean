import ClientTransaction.Config
import ClientTransaction.Client.Delivery

/-!
# Nonblocking — transactions whose calls do not wait

Every call queues its requests and returns. An operation that ends later yields a handle. A
transaction may be held several times over; when nobody holds it any more and it has not been ended,
it is rolled back.
-/

namespace ClientTransaction.Nonblocking

/-! ## Beginning -/

/-- Begins a transaction under a handle of the given name. Without a bookmark the handle can be
taken at once; with one it is resolved when the server has acknowledged BEGIN. -/
def begin (s : Client) (title : String) (reported : Bool) (config : Config) (name : String) :
    Client :=
  let tx := s.transactions.length
  let handle := s.handles.length
  let s := s.addTransaction { title := title, reported := reported }
  if config.bookmark.isEmpty then
    (s.send tx .begin Message.begin config.beginParameters .ignore .ignore).addHandle
      (.ready (some name) (.ok (.transaction tx)))
  else
    ((s.addHandle (.fresh (some name))).send tx .begin Message.begin config.beginParameters .ignore
      (.begun handle)).flush tx

/-! ## Statements -/

/-- Runs a statement and names its cursor. -/
def runStatement (s : Client) (tx : Nat) (statement : String) (params : Params)
    (name : Option String) : Option Error × Client :=
  match s.transactions[tx]?.bind Transaction.refusal? with
  | some e => (some e, s)
  | none =>
      let cursor := s.cursors.length
      let s := s.addCursor { statement := statement, owner := tx, name := name }
      let s := s.send tx (.statement cursor) statement params (.columns cursor) (.rows cursor)
      (none, s.flush tx)

/-- A handle for the summary of a statement. -/
def consume (s : Client) (cursor : Nat) (name : Option String) : Client :=
  match s.cursors[cursor]? with
  | none => s
  | some c =>
      match c.outcome with
      | some outcome => s.addHandle (.ready name (outcome.map Payload.summary))
      | none => (s.updateCursor cursor fun c => c.await s.handles.length).addHandle (.fresh name)

/-! ## The end of a transaction -/

inductive Terminal
  | commit
  | rollback
  /-- A commit if the transaction is marked for it, and a rollback if not or if the commit fails. -/
  | close
  deriving DecidableEq, Repr

/-- What a terminal operation does first. -/
inductive Course
  /-- Nothing is sent; the operation ends with this result. -/
  | finish (result : Except Error Unit)
  | commit
  | commitOrRollback
  | rollback
  deriving Repr

namespace Terminal

/-- The course of an operation that has claimed a transaction in the given state. -/
def course : Terminal → State → Course
  | .commit, .failed => .finish (.error .commitAfterFailure)
  | .rollback, .failed | .close, .failed => .finish (.ok ())
  | _, .committed | _, .rolledBack => .finish (.ok ())
  | .commit, _ => .commit
  | .rollback, _ => .rollback
  | .close, .markedSuccess => .commitOrRollback
  | .close, _ => .rollback

end Terminal

/-- Sends an exchange that ends the transaction. -/
def sendTerminal (s : Client) (tx : Nat) (course : Course) (done : TerminalChain) : Client :=
  match course with
  | .finish result => Client.follow (s.fire tx done result)
  | .commit =>
      (s.send tx .commit Message.commit [] .ignore (.committed done)).flush tx
  | .commitOrRollback =>
      (s.send tx .commit Message.commit [] .ignore (.committed (.fallback .rollback done))).flush tx
  | .rollback =>
      (s.send tx .rollback Message.rollback [] .ignore (.rolledBack done)).flush tx

/-- Ends the transaction under a handle of the given name. Only the first terminal operation claims
the transaction; a later one is refused while the transaction is open and succeeds afterwards. -/
def terminate (s : Client) (tx : Nat) (terminal : Terminal) (name : Option String) : Client :=
  match s.transactions[tx]? with
  | none => s
  | some t =>
      if t.closing then
        s.addHandle (.ready name (if t.isOpen then .error .alreadyClosing else .ok .unit))
      else
        -- The state counts as it is when the claim is made; marks that come later change nothing.
        let handle := s.handles.length
        sendTerminal ((s.updateTransaction tx Transaction.claim).addHandle (.fresh name)) tx
          (terminal.course t.state) (.finalizer .close (.sink (.handle handle)))

/-! ## Holding and letting go -/

def clone (s : Client) (tx : Nat) (name : String) : Client :=
  s.updateTransaction tx (Transaction.hold name false)

/-- Lets one holding of a transaction go. -/
def drop (s : Client) (tx : Nat) (name : String) : Client :=
  Client.follow ((s.updateTransaction tx (Transaction.letGo name)).abandon s.connection.queue tx)

/-- Puts a transaction that a handle has yielded under its own name. -/
def adopt (s : Client) : Option (Except Error Payload) → Client
  | some (.ok (.transaction tx)) =>
      match s.transactions[tx]? with
      | some t => s.updateTransaction tx (Transaction.hold t.title true)
      | none => s
  | _ => s

/-- Asks a handle for its outcome. -/
def ask (s : Client) (handle : Nat)
    (question : Handle Payload → Option (Except Error Payload) × Handle Payload) :
    Option (Except Error Payload) × Client :=
  match s.handles[handle]? with
  | none => (none, s)
  | some h =>
      let (outcome, h) := question h
      (outcome, adopt { s with handles := s.handles.set handle h } outcome)

/-- Lets a handle go, and with it a transaction that it could have yielded. -/
def dropHandle (s : Client) (handle : Nat) : Client :=
  match s.handles[handle]? with
  | none => s
  | some h =>
      let s := { s with handles := s.handles.set handle h.drop }
      -- A transaction that was never taken goes with its handle.
      match h.state with
      | .resolved (.ok (.transaction tx)) => Client.follow (s.abandon s.connection.queue tx)
      | _ => s

end ClientTransaction.Nonblocking
