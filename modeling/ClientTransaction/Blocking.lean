import ClientTransaction.Config
import ClientTransaction.Client.Delivery

/-!
# Blocking — transactions whose calls wait

Every call runs to its end before it returns. COMMIT and ROLLBACK wait for their replies; statements
are only flushed, and their results are awaited when they are asked for. Each call on the connection
can fail, and the calls of an exchange stop at the first that does.
-/

namespace ClientTransaction.Blocking

/-- The error of a call, if it failed, and the client after it. -/
abbrev Sent :=
  Option Error × Client

/-- Goes on unless a call has failed. -/
def Sent.andThen (sent : Sent) (next : Client → Sent) : Sent :=
  match sent with
  | (none, s) => next s
  | (some e, s) => (some e, s)

/-! ## Calls on the connection -/

/-- A call on behalf of `tx`: it is recorded, replies may come, then it fails or goes through. -/
def call (tx : Nat) (kind : Call) (event : Event) (s : Client) : Sent :=
  let s := s.record event
  let (verdict, connection) := s.connection.attempt kind
  let (_, s) := { s with connection := connection }.deliver (some verdict.replies)
  match verdict.failure with
  | some e => (some e, s.record (.refused tx))
  | none => (none, s)

def run (tx : Nat) (exchange : Exchange) (statement : String) (params : Params) (handler : Handler)
    (s : Client) : Sent :=
  (call tx .run (.run tx exchange statement params) s).andThen fun s =>
    (none, s.updateConnection fun c => c.run tx exchange statement handler)

def pullAll (tx : Nat) (exchange : Exchange) (handler : Handler) (s : Client) : Sent :=
  (call tx .pullAll (.pullAll tx exchange) s).andThen fun s =>
    (none, s.updateConnection fun c => c.pullAll tx exchange handler)

def flush (tx : Nat) (s : Client) : Sent :=
  call tx .flush (.flush tx) s

/-- Waits for all replies; the first failure among them is the call's own. A call whose end is laid
down waits for as many replies as that says. -/
def sync (tx : Nat) (s : Client) : Sent :=
  let sent := call tx .sync (.sync tx) s
  if s.connection.verdicts.isEmpty then sent.andThen fun s => s.deliver none else sent

/-! ## The end of a transaction -/

/-- An exchange that ends the transaction: its reply is awaited, then the terminal state is set. -/
def finish (tx : Nat) (exchange : Exchange) (statement : String) (terminal : State) (s : Client) :
    Sent :=
  (((run tx exchange statement [] .ignore s).andThen
    (pullAll tx exchange .bookmark)).andThen
    (sync tx)).andThen fun s => (none, s.updateTransaction tx (Transaction.finalize terminal))

def commitExchange (tx : Nat) (s : Client) : Sent :=
  finish tx .commit Message.commit .committed s

def rollbackExchange (tx : Nat) (s : Client) : Sent :=
  finish tx .rollback Message.rollback .rolledBack s

/-- A commit that fails is followed by a rollback, whose own failure does not matter. -/
def commitOrRollback (tx : Nat) (s : Client) : Sent :=
  match commitExchange tx s with
  | (none, s) => (none, s)
  | (some e, s) => (some e, (rollbackExchange tx s).2)

/-- What closing sends: nothing on a closed connection or for a failed transaction, else a COMMIT if
the transaction is marked for it, else a ROLLBACK. -/
def conclude (tx : Nat) (state : State) (s : Client) : Sent :=
  if s.connection.isOpen then
    match state with
    | .markedSuccess => commitOrRollback tx s
    | .active | .markedFailed => rollbackExchange tx s
    | .failed | .committed | .rolledBack => (none, s)
  else
    match state with
    | .markedSuccess => (some .closedBeforeCommit, s)
    | _ => (none, s)

/-- Closes the transaction. Whatever happens it ends terminal, with its connection released and its
owner notified; closing again does nothing. -/
def close (s : Client) (tx : Nat) : Sent :=
  match s.transactions[tx]? with
  | none => (none, s)
  | some t =>
      if t.closing then (none, s)
      else
        -- The release comes last, on every way out.
        let (failure, s) := conclude tx t.state (s.updateTransaction tx Transaction.claim)
        (failure, s.release tx)

/-- Marks for commit and closes. -/
def commit (s : Client) (tx : Nat) : Sent :=
  close (s.updateTransaction tx Transaction.markSuccess) tx

/-- Marks for rollback and closes. -/
def rollback (s : Client) (tx : Nat) : Sent :=
  close (s.updateTransaction tx Transaction.markFailure) tx

/-- Lets the transaction go; unless it was closed it is closed now, and an error is ignored. -/
def drop (s : Client) (tx : Nat) : Client :=
  (close s tx).2

/-! ## Beginning -/

/-- Sends BEGIN, and waits for its reply if there is a bookmark to wait for. -/
def sendBegin (tx : Nat) (config : Config) (s : Client) : Sent :=
  let sent := (run tx .begin Message.begin config.beginParameters .ignore s).andThen
    (pullAll tx .begin .ignore)
  if config.bookmark.isEmpty then sent else sent.andThen (sync tx)

/-- Begins a transaction. If that fails, the transaction has ended before the error is returned. -/
def begin (s : Client) (title : String) (reported : Bool) (config : Config) : Sent :=
  let tx := s.transactions.length
  let s := s.addTransaction { title := title, reported := reported }
  match sendBegin tx config s with
  | (none, s) => (none, s.updateTransaction tx (Transaction.hold title true))
  | (some e, s) => (some e, drop (s.updateTransaction tx Transaction.markFailed) tx)

/-! ## Statements -/

/-- Runs a statement and names its result. If it cannot be sent, the transaction has failed. -/
def runStatement (s : Client) (tx : Nat) (statement : String) (params : Params)
    (name : Option String) : Sent :=
  match s.transactions[tx]?.bind Transaction.refusal? with
  | some e => (some e, s)
  | none =>
      let cursor := s.cursors.length
      let s := s.addCursor { statement := statement, owner := tx }
      let sent := ((run tx (.statement cursor) statement params (.columns cursor) s).andThen
        (pullAll tx (.statement cursor) (.rows cursor))).andThen (flush tx)
      match sent with
      | (none, s) => (none, s.updateCursor cursor fun c => { c with name := name })
      | (some e, s) => (some e, s.updateTransaction tx Transaction.markFailed)

/-- Waits until the stream of a statement has ended. The statement's own error comes first. -/
def wait (s : Client) (cursor : Nat) : Sent :=
  match s.cursors[cursor]? with
  | none => (none, s)
  | some c =>
      if c.isComplete then (c.error?, s)
      else
        -- The failure of another reply counts only if this stream has none.
        let (synced, s) := sync c.owner s
        match s.cursors[cursor]?.bind Cursor.error? with
        | some e => (some e, s)
        | none => (synced, s)

end ClientTransaction.Blocking
