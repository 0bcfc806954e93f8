import ClientTransaction.Completion
import ClientTransaction.Message

/-!
# Connection — requests, replies and the queue between them

Requests are answered in the order in which they were sent. The server's side is scripted: the reply
to a request is fixed when the request is sent, and waits in a queue, with its handler, until it is
delivered.
-/

namespace ClientTransaction

/-! ## Replies -/

/-- How a request ends. -/
inductive Outcome
  | success (metadata : Params)
  | failure (error : Error)
  /-- The connection gives the handler up without an answer. -/
  | dropped
  deriving Repr

namespace Outcome

def failure? : Outcome → Option Error
  | .failure e => some e
  | _ => none

end Outcome

structure Reply where
  records : List (List Value) := []
  outcome : Outcome := .success []
  deriving Repr

/-! ## Requests -/

/-- What two requests, a RUN and a PULL_ALL, are sent for. -/
inductive Exchange
  | begin
  /-- A statement, with its cursor by its place. -/
  | statement (cursor : Nat)
  | commit
  | rollback
  deriving DecidableEq, Repr

inductive Part
  | run
  | pullAll
  deriving DecidableEq, Repr

/-- Who learns the outcome of a terminal operation. -/
inductive Listener
  | handle (place : Nat)
  | nobody
  deriving DecidableEq, Repr

/-- Ends the transaction: finalizes it, releases its connection and notifies its owner. -/
inductive Finalizer
  | close
  deriving DecidableEq, Repr

/-- What follows a commit that failed. -/
inductive Secondary
  | rollback
  deriving DecidableEq, Repr

/-- What is left to do when a terminal operation ends. -/
abbrev TerminalChain :=
  Completion Listener Finalizer Secondary

/-- What a reply is for. -/
inductive Handler
  | ignore
  /-- The columns of a result. -/
  | columns (cursor : Nat)
  /-- The rows of a result and its summary. -/
  | rows (cursor : Nat)
  /-- The bookmark after a commit or rollback that the caller waits for. -/
  | bookmark
  /-- The acknowledgement of BEGIN, for the handle that yields the transaction. -/
  | begun (handle : Nat)
  | committed (done : TerminalChain)
  | rolledBack (done : TerminalChain)
  deriving Repr

/-- A request that has been sent, with the reply that it will get. -/
structure Request where
  /-- The transaction that sent it, by its place. -/
  owner : Nat
  exchange : Exchange
  part : Part
  handler : Handler
  reply : Reply
  deriving Repr

namespace Request

/-- Whether the request keeps a cursor alive. -/
def holdsCursor (r : Request) (cursor : Nat) : Bool :=
  match r.handler with
  | .columns c | .rows c => c == cursor
  | _ => false

/-- Whether the request keeps a transaction alive: it holds a handle that it will pass on. -/
def holdsTransaction (r : Request) (tx : Nat) : Bool :=
  match r.handler with
  | .begun _ => r.owner == tx
  | _ => false

/-- The number of replies that may follow from answering the request, itself included: a commit with
a fallback and an acknowledgement that nobody wants are each followed by a ROLLBACK exchange. -/
def weight (r : Request) : Nat :=
  match r.handler with
  | .begun _ => 3
  | .committed done | .rolledBack done => 1 + 2 * done.fallbacks
  | _ => 1

end Request

/-! ## The server's script and its faults -/

/-- The replies to a statement; an absent one is the usual reply. -/
structure Script where
  statement : String
  run : Option Reply
  pull : Option Reply
  deriving Repr

inductive Call
  | run
  | pullAll
  | flush
  | sync
  deriving DecidableEq, Repr

/-- A broken connection: calls of the given kinds, or all calls, fail after the first `skip`. -/
structure Fault where
  error : Error
  calls : Option (List Call) := none
  skip : Nat := 0
  deriving Repr

namespace Fault

def applies (f : Fault) (call : Call) : Bool :=
  match f.calls with
  | none => true
  | some calls => calls.contains call

end Fault

/-- What becomes of one call that can fail: the number of replies that come while it is made, and
its error, if it fails. -/
structure Verdict where
  replies : Nat := 0
  failure : Option Error := none
  deriving Repr

/-! ## The connection -/

structure Connection where
  scripts : List Script := []
  /-- The statement of the last RUN whose PULL_ALL has not been sent, with the RUN's reply. -/
  lastRun : Option (String × Reply) := none
  queue : List Request := []
  fault : Option Fault := none
  /-- What becomes of the next calls that can fail, one after the other. The calls after these meet
  the fault. -/
  verdicts : List Verdict := []
  isOpen : Bool := true
  /-- Replies are held back when a request is flushed. -/
  held : Bool := false
  deriving Repr

namespace Connection

/-- Replaces the script of a statement. -/
def setScript (c : Connection) (script : Script) : Connection :=
  { c with scripts := script :: c.scripts.filter fun s => s.statement ≠ script.statement }

def script? (c : Connection) (statement : String) : Option Script :=
  c.scripts.find? fun s => s.statement = statement

/-- The reply to the RUN of a statement. -/
def runReply (c : Connection) (statement : String) : Reply :=
  ((c.script? statement).bind Script.run).getD {}

/-- The reply to a PULL_ALL: that of the last statement, or else the failure of its RUN. -/
def pullReply (c : Connection) : Reply :=
  match c.lastRun with
  | none => {}
  | some (statement, run) =>
      ((c.script? statement).bind Script.pull).getD
        -- A server that has refused a RUN refuses its PULL_ALL too.
        (match run.outcome with
          | .failure e => { outcome := .failure e }
          | _ => {})

/-- Queues a RUN. -/
def run (c : Connection) (owner : Nat) (exchange : Exchange) (statement : String)
    (handler : Handler) : Connection :=
  let reply := c.runReply statement
  { c with queue := c.queue ++ [⟨owner, exchange, .run, handler, reply⟩]
           lastRun := some (statement, reply) }

/-- Queues a PULL_ALL. -/
def pullAll (c : Connection) (owner : Nat) (exchange : Exchange) (handler : Handler) : Connection :=
  { c with queue := c.queue ++ [⟨owner, exchange, .pullAll, handler, c.pullReply⟩]
           lastRun := none }

/-- Takes note of a call that can fail: what becomes of it. -/
def attempt (c : Connection) (call : Call) : Verdict × Connection :=
  match c.verdicts with
  | verdict :: rest => (verdict, { c with verdicts := rest })
  | [] =>
      match c.fault with
      | none => ({}, c)
      | some fault =>
          if fault.applies call then
            match fault.skip with
            | 0 => ({ failure := some fault.error }, c)
            | skip + 1 => ({}, { c with fault := some { fault with skip := skip } })
          else ({}, c)

/-- The number of replies that delivering the queue can come to. -/
def load (c : Connection) : Nat :=
  c.queue.foldr (fun r load => r.weight + load) 0

end Connection

end ClientTransaction
