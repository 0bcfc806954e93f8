import ClientTransaction.Client

/-!
# Client.Delivery — replies and what follows from them

Delivering a reply runs its handler. A handler can ask for one thing that goes back to the server: a
ROLLBACK exchange, after a commit that failed or for a transaction that nobody holds any more.
Flushing that exchange delivers what is queued, unless replies are held back. Delivery ends, because
an exchange that follows from a handler is followed by no other.
-/

namespace ClientTransaction

/-- A ROLLBACK exchange that is to be sent for a transaction. -/
structure Rollback where
  tx : Nat
  done : TerminalChain
  deriving Repr

namespace Client

/-! ## Completions of terminal operations -/

/-- Runs the finalizers of a completion of `tx`, in order. -/
def runFinalizers (s : Client) (tx : Nat) : List (Finalizer × Except Error Unit) → Client
  | [] => s
  | (.close, _) :: rest => (s.release tx).runFinalizers tx rest

/-- Fires the completion of a terminal operation of `tx`. -/
def fire (s : Client) (tx : Nat) (done : TerminalChain) (result : Except Error Unit) :
    Client × Option Rollback :=
  let (actions, stop) := done.fire result
  let s := s.runFinalizers tx actions
  match stop with
  | .settled (.handle handle) result => (s.resolve handle (result.map fun _ => Payload.unit), none)
  | .settled .nobody _ => (s, none)
  | .started .rollback rest => (s, some ⟨tx, rest⟩)

/-! ## Transactions that nobody holds -/

/-- Whether the application, a handle with an outcome to take, or one of the given requests holds
the transaction. -/
def holdsTransaction (s : Client) (requests : List Request) (tx : Nat) : Bool :=
  (s.transactions[tx]?.any fun t => !t.holdings.isEmpty) ||
    (s.handles.any fun h => match h.state with
      | .resolved (.ok (.transaction other)) => other == tx
      | _ => false) ||
    requests.any fun r => r.holdsTransaction tx

/-- If nobody holds the transaction any more and no terminal operation has claimed it, it is rolled
back; one that the server has given up is only released. -/
def abandon (s : Client) (requests : List Request) (tx : Nat) : Client × Option Rollback :=
  match s.transactions[tx]? with
  | none => (s, none)
  | some t =>
      if s.holdsTransaction requests tx || !t.isOpen || t.closing then (s, none)
      else
        let s := s.updateTransaction tx Transaction.claim
        -- A ROLLBACK would be refused by a server that has given the transaction up.
        if t.state = .failed then (s.release tx, none)
        else (s, some ⟨tx, .finalizer .close (.sink .nobody)⟩)

/-! ## Handlers -/

/-- BEGIN was acknowledged: the handle yields the transaction, or nobody wants it any more. -/
def acknowledge (s : Client) (requests : List Request) (tx handle : Nat) :
    Client × Option Rollback :=
  (s.resolve handle (.ok (.transaction tx))).abandon requests tx

/-- BEGIN failed: the transaction ends before its handle does. -/
def refuse (s : Client) (tx handle : Nat) (e : Error) : Client :=
  -- Whoever has claimed the transaction ends it.
  let claimed := s.transactions[tx]?.any fun t => t.closing
  let s := s.updateTransaction tx fun t => t.markFailed.claim
  (if claimed then s else s.release tx).resolve handle (.error e)

/-- The rows of a reply get to the cursor that collects them, if one does. -/
def collect (s : Client) (r : Request) : Client :=
  match r.handler with
  | .rows cursor => s.updateCursor cursor fun c => r.reply.records.foldl Cursor.push c
  | _ => s

/-- A request comes to its end: its rows are collected, its handler runs and is gone. `others` are
the requests that are still to be answered. -/
def answer (s : Client) (others : List Request) (r : Request) : Client × Option Rollback :=
  let s := (s.collect r).record (.reply r.owner r.exchange r.part r.reply)
  match r.handler, r.reply.outcome with
  | .ignore, _ => (s, none)
  | .columns cursor, .success metadata =>
      let s := s.updateCursor cursor fun c => c.setKeys (Message.fields metadata)
      (s.releaseCursor others cursor, none)
  | .rows cursor, .success metadata =>
      ((s.finishCursor r.owner cursor metadata).releaseCursor others cursor, none)
  | .columns cursor, .failure e | .rows cursor, .failure e =>
      ((s.failCursor r.owner cursor e).releaseCursor others cursor, none)
  | .columns cursor, .dropped | .rows cursor, .dropped => (s.releaseCursor others cursor, none)
  | .bookmark, .success metadata =>
      (s.updateTransaction r.owner (Transaction.setBookmark (Message.bookmark metadata)), none)
  | .bookmark, _ => (s, none)
  | .begun handle, .success _ => s.acknowledge others r.owner handle
  | .begun handle, .failure e => (s.refuse r.owner handle e, none)
  | .begun handle, .dropped => (s.refuse r.owner handle .completionDropped, none)
  | .committed done, .success metadata =>
      (s.updateTransaction r.owner fun t =>
        (t.setBookmark (Message.bookmark metadata)).finalize .committed).fire r.owner done (.ok ())
  | .rolledBack done, .success _ =>
      (s.updateTransaction r.owner (Transaction.finalize .rolledBack)).fire r.owner done (.ok ())
  | .committed done, .failure e | .rolledBack done, .failure e => s.fire r.owner done (.error e)
  | .committed done, .dropped | .rolledBack done, .dropped =>
      s.fire r.owner done (.error .completionDropped)

/-! ## Delivery -/

/-- Queues a ROLLBACK exchange and flushes it, without delivering anything. -/
def startRollback (s : Client) (r : Rollback) : Client :=
  (s.send r.tx .rollback Message.rollback [] .ignore (.rolledBack r.done)).record (.flush r.tx)

def start (s : Client) : Option Rollback → Client
  | some r => s.startRollback r
  | none => s

/-- Takes the first request off the queue. -/
def next? (s : Client) : Option (Request × Client) :=
  match s.connection.queue with
  | [] => none
  | r :: rest => some (r, s.updateConnection fun c => { c with queue := rest })

/-- Answers up to `count` requests, those included that are sent meanwhile. -/
def drainUpTo : Nat → Client → Client
  | 0, s => s
  | count + 1, s =>
      match s.next? with
      | none => s
      | some (r, s) =>
          let (s, rollback) := s.answer s.connection.queue r
          drainUpTo count (s.start rollback)

/-- Answers every request until none is left. -/
def drain (s : Client) : Client :=
  drainUpTo s.connection.load s

/-- Delivers what is queued, unless replies are held back. -/
def settle (s : Client) : Client :=
  if s.connection.held then s else s.drain

/-- Sends the ROLLBACK exchange that is asked for, if any, and delivers what is queued then. -/
def follow : Client × Option Rollback → Client
  | (s, some r) => (s.startRollback r).settle
  | (s, none) => s

/-- Flushes on behalf of `tx`. -/
def flush (s : Client) (tx : Nat) : Client :=
  (s.record (.flush tx)).settle

/-- Answers up to `count` requests, counting neither the requests answered by a flush that a handler
makes nor their failures. The answer is the first failure. -/
def deliverUpTo : Nat → Option Error → Client → Option Error × Client
  | 0, first, s => (first, s)
  | count + 1, first, s =>
      match s.next? with
      | none => (first, s)
      | some (r, s) =>
          deliverUpTo count (first <|> r.reply.outcome.failure?)
            (follow (s.answer s.connection.queue r))

/-- Answers requests until none is left, or until the given number has been answered. -/
def deliver (s : Client) (limit : Option Nat) : Option Error × Client :=
  deliverUpTo (limit.getD s.connection.load) none s

/-- Gives up the requests that are queued now, one by one, without an answer. -/
def giveUp : List Request → Client → Client
  | [], s => s
  | r :: rest, s =>
      -- What a handler sends meanwhile is not given up.
      let given := { r with reply := { outcome := .dropped } }
      giveUp rest (follow (s.answer (s.connection.queue ++ rest) given))

def dropQueue (s : Client) : Client :=
  giveUp s.connection.queue (s.updateConnection fun c => { c with queue := [] })

end Client

end ClientTransaction
