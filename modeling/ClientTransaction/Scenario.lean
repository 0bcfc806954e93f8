import ClientTransaction.Blocking
import ClientTransaction.Config.Source
import ClientTransaction.Nonblocking
import ClientTransaction.TransactionId

/-!
# Scenario — an application and a server, step by step

A scenario is a list of steps over one connection: what the application does with its transactions,
results and handles, each under a name, and what becomes of the server's replies. A step on a name
that stands for nothing is answered so and changes nothing.
-/

namespace ClientTransaction

/-- Whether calls wait for their replies. -/
inductive Flavor
  | blocking
  | nonblocking
  deriving DecidableEq, Repr

namespace Scenario

/-! ## Steps -/

/-- How a transaction is begun. -/
structure Begin where
  tx : String
  config : Config.Source
  /-- The session listens for the end of the transaction. -/
  reported : Bool
  /-- The transaction whose bookmark replaces that of the configuration. -/
  bookmarkOf : Option String
  /-- The name of the handle, when the call does not wait. -/
  handle : String
  deriving Repr

inductive Step
  | script (script : Script)
  | failSends (fault : Fault)
  | heal
  /-- Lays down what becomes of the next calls that can fail. -/
  | layDown (verdicts : List Verdict)
  | hold (on : Bool)
  | disconnect
  | reconnect
  | deliver (limit : Option Nat)
  | dropQueue
  | begin (b : Begin)
  | success (tx : String)
  | failure (tx : String)
  | resultFetched (tx : String)
  | resultFailed (tx : String) (e : Error)
  | setBookmark (tx : String) (source : Bookmark.Source)
  | bookmark (tx : String)
  | observe (tx : String)
  | describe (tx : String)
  | sameId (tx other : String)
  | run (tx statement : String) (params : Params) (result : Option String)
  | close (tx : String) (handle : Option String)
  | commit (tx : String) (handle : Option String)
  | rollback (tx : String) (handle : Option String)
  | clone (tx name : String)
  | drop (tx : String)
  | keys (result : String)
  | records (result : String)
  | consume (result : String) (handle : Option String)
  | cursor (result : String)
  | get (result : String) (index : Nat) (key : String)
  | dropResult (result : String)
  | take (handle : String)
  | poll (handle : String)
  | dropHandle (handle : String)
  deriving Repr

/-! ## Answers -/

structure Observation where
  state : State
  isOpen : Bool
  bookmark : Bookmark
  /-- What the session was told, if it can be asked under this name. -/
  notified : Option (List TransactionId)
  id : TransactionId
  deriving Repr

inductive Answer
  | done
  | missing
  | pending
  | noRecord
  | unreadable (format : Config.Unreadable)
  | failed (e : Error)
  | ended
  | transaction (name : String)
  | summary (metadata : Params)
  | keys (keys : List String)
  | records (records : List Record)
  | bookmark (b : Bookmark)
  | observation (o : Observation)
  | text (s : String)
  | flag (b : Bool)
  | cursor (c : Cursor)
  | value (v : Option Value)
  deriving Repr

/-- Nothing on success, or the error. -/
def Answer.ofFailure (success : Answer) : Option Error → Answer
  | none => success
  | some e => .failed e

/-! ## Names -/

def transaction? (s : Client) (name : String) : Option Nat :=
  s.transactions.findIdx? fun t => t.isHeldAs name

def cursor? (s : Client) (name : String) : Option Nat :=
  s.cursors.findIdx? fun c => c.name = some name

def handle? (s : Client) (name : String) : Option Nat :=
  Handle.find? s.handles name

/-- Acts on the transaction that is held under a name. -/
def onTransaction (s : Client) (name : String) (act : Nat → Transaction → Answer × Client) :
    Answer × Client :=
  match transaction? s name with
  | none => (.missing, s)
  | some tx =>
      match s.transactions[tx]? with
      | none => (.missing, s)
      | some t => act tx t

def onCursor (s : Client) (name : String) (act : Nat → Cursor → Answer × Client) :
    Answer × Client :=
  match cursor? s name with
  | none => (.missing, s)
  | some cursor =>
      match s.cursors[cursor]? with
      | none => (.missing, s)
      | some c => act cursor c

def onHandle (s : Client) (name : String) (act : Nat → Answer × Client) : Answer × Client :=
  match handle? s name with
  | none => (.missing, s)
  | some handle => act handle

/-! ## What the steps do -/

/-- Changes the transaction alone. -/
def change (s : Client) (name : String) (f : Transaction → Transaction) : Answer × Client :=
  onTransaction s name fun tx _ => (.done, s.updateTransaction tx f)

def connect (s : Client) (f : Connection → Connection) : Answer × Client :=
  (.done, s.updateConnection f)

/-- The configuration of a new transaction, or the answer when there is none. -/
def beginConfig (s : Client) (b : Begin) : Except Answer Config :=
  match Config.ofSource b.config, b.bookmarkOf with
  | .error format, _ => .error (.unreadable format)
  | .ok config, none => .ok config
  | .ok config, some name =>
      match (transaction? s name).bind fun tx => s.transactions[tx]? with
      | some t => .ok { config with bookmark := t.bookmark }
      | none => .error .missing

def begin (flavor : Flavor) (s : Client) (b : Begin) : Answer × Client :=
  match beginConfig s b with
  | .error answer => (answer, s)
  | .ok config =>
      match flavor with
      | .blocking =>
          let (failure, s) := Blocking.begin s b.tx b.reported config
          (.ofFailure .done failure, s)
      | .nonblocking => (.done, Nonblocking.begin s b.tx b.reported config b.handle)

def run (flavor : Flavor) (s : Client) (tx : Nat) (statement : String) (params : Params)
    (result : Option String) : Answer × Client :=
  let (failure, s) := match flavor with
    | .blocking => Blocking.runStatement s tx statement params result
    | .nonblocking => Nonblocking.runStatement s tx statement params result
  (.ofFailure .done failure, s)

/-- Ends a transaction. A blocking commit or rollback takes the transaction away from the
application. -/
def terminate (flavor : Flavor) (s : Client) (name : String) (terminal : Nonblocking.Terminal)
    (handle : Option String) : Answer × Client :=
  onTransaction s name fun tx _ =>
    match flavor with
    | .nonblocking => (.done, Nonblocking.terminate s tx terminal handle)
    | .blocking =>
        let (failure, s) := match terminal with
          | .close => Blocking.close s tx
          | .commit => Blocking.commit (s.updateTransaction tx (Transaction.letGo name)) tx
          | .rollback => Blocking.rollback (s.updateTransaction tx (Transaction.letGo name)) tx
        (.ofFailure .ended failure, s)

def drop (flavor : Flavor) (s : Client) (name : String) : Answer × Client :=
  onTransaction s name fun tx _ =>
    match flavor with
    | .nonblocking => (.done, Nonblocking.drop s tx name)
    | .blocking => (.done, Blocking.drop (s.updateTransaction tx (Transaction.letGo name)) tx)

/-- What a result holds; a blocking caller waits for its stream to end first. -/
def read (flavor : Flavor) (s : Client) (name : String) (view : Cursor → Answer) :
    Answer × Client :=
  onCursor s name fun cursor c =>
    match flavor with
    | .nonblocking => (view c, s)
    | .blocking =>
        let (failure, s) := Blocking.wait s cursor
        (.ofFailure ((s.cursors[cursor]?.map view).getD .missing) failure, s)

def consume (flavor : Flavor) (s : Client) (name : String) (handle : Option String) :
    Answer × Client :=
  match flavor with
  | .blocking => read flavor s name fun c => .summary (c.summary?.getD [])
  | .nonblocking => onCursor s name fun cursor _ => (.done, Nonblocking.consume s cursor handle)

def observe (s : Client) (name : String) : Answer × Client :=
  onTransaction s name fun tx t =>
    let notified := s.history.filterMap fun
      | .closed other (some _) => if other = tx then some (TransactionId.nth other) else none
      | _ => none
    -- The session can be asked only under the name that the transaction got when it was begun.
    let asked := t.reported && t.holdings.any fun h => h.name == name && h.own
    (.observation
      { state := t.state
        isOpen := t.isOpen
        bookmark := t.bookmark
        notified := if asked then some notified else none
        id := TransactionId.nth tx }, s)

/-- The text of a transaction for a developer. -/
def describe (flavor : Flavor) (s : Client) (name : String) : Answer × Client :=
  onTransaction s name fun _ t =>
    match flavor with
    | .blocking => (.text (t.describe "ExplicitTransaction"), s)
    | .nonblocking => (.text (t.describe "AsyncExplicitTransaction"), s)

/-- The answer to a question put to a handle. -/
def outcomeAnswer (s : Client) : Option (Except Error Payload) → Answer
  | none => .pending
  | some (.error e) => .failed e
  | some (.ok .unit) => .ended
  | some (.ok (.summary metadata)) => .summary metadata
  | some (.ok (.transaction tx)) =>
      (s.transactions[tx]?.map fun t => .transaction t.title).getD .missing

def ask (s : Client) (name : String)
    (question : Handle Payload → Option (Except Error Payload) × Handle Payload) :
    Answer × Client :=
  onHandle s name fun handle =>
    let (outcome, s) := Nonblocking.ask s handle question
    (outcomeAnswer s outcome, s)

def perform (flavor : Flavor) (s : Client) : Step → Answer × Client
  | .script script => connect s fun c => c.setScript script
  | .failSends fault => connect s fun c => { c with fault := some fault }
  | .heal => connect s fun c => { c with fault := none }
  | .layDown verdicts => connect s fun c => { c with verdicts := verdicts }
  | .hold on => connect s fun c => { c with held := on }
  | .disconnect => connect s fun c => { c with isOpen := false }
  | .reconnect => connect s fun c => { c with isOpen := true }
  | .deliver limit =>
      let (failure, s) := s.deliver limit
      (.ofFailure .ended failure, s)
  | .dropQueue => (.done, s.dropQueue)
  | .begin b => begin flavor s b
  | .success tx => change s tx Transaction.markSuccess
  | .failure tx => change s tx Transaction.markFailure
  | .resultFetched tx => change s tx id
  | .resultFailed tx e => change s tx (Transaction.resultFailed e)
  | .setBookmark tx source =>
      onTransaction s tx fun place _ =>
        match Bookmark.ofSource? source with
        | some b => (.done, s.updateTransaction place (Transaction.setBookmark b))
        | none => (.unreadable .json, s)
  | .bookmark tx => onTransaction s tx fun _ t => (.bookmark t.bookmark, s)
  | .observe tx => observe s tx
  | .describe tx => describe flavor s tx
  | .sameId tx other =>
      onTransaction s tx fun tx _ => onTransaction s other fun other _ =>
        (.flag (TransactionId.nth tx = TransactionId.nth other), s)
  | .run tx statement params result =>
      onTransaction s tx fun tx _ => run flavor s tx statement params result
  | .close tx handle => terminate flavor s tx .close handle
  | .commit tx handle => terminate flavor s tx .commit handle
  | .rollback tx handle => terminate flavor s tx .rollback handle
  | .clone tx name =>
      onTransaction s tx fun tx _ =>
        match flavor with
        | .nonblocking => (.done, Nonblocking.clone s tx name)
        | .blocking => (.missing, s)
  | .drop tx => drop flavor s tx
  | .keys result => read flavor s result fun c => .keys c.keys
  | .records result => read flavor s result fun c => .records c.records
  | .consume result handle => consume flavor s result handle
  | .cursor result => onCursor s result fun _ c => (.cursor c, s)
  | .get result index key =>
      onCursor s result fun _ c =>
        match c.records[index]? with
        | some r => (.value (r.get? key), s)
        | none => (.noRecord, s)
  | .dropResult result =>
      onCursor s result fun cursor _ => (.done, s.dropCursor cursor)
  | .take handle => ask s handle Handle.take
  | .poll handle => ask s handle Handle.poll
  | .dropHandle handle =>
      onHandle s handle fun handle => (.done, Nonblocking.dropHandle s handle)

/-! ## Runs -/

/-- What can be seen of a step: its answer, what happened meanwhile, the number of replies that
wait, and the states of the transactions that the application holds. -/
structure Report where
  answer : Answer
  events : List Event
  waiting : Nat
  states : List (String × State)
  deriving Repr

def states (s : Client) : List (String × State) :=
  s.transactions.flatMap fun t => t.holdings.map fun h => (h.name, t.state)

/-- Performs a step and reports it. -/
def report (flavor : Flavor) (s : Client) (step : Step) : Report × Client :=
  let (answer, after) := perform flavor s step
  ({ answer := answer
     events := after.history.drop s.history.length
     waiting := after.connection.queue.length
     states := states after }, after)

/-- Performs the steps from a given client on. -/
def reportAll (flavor : Flavor) (s : Client) : List Step → List Report
  | [] => []
  | step :: rest =>
      let (r, s) := report flavor s step
      r :: reportAll flavor s rest

/-- The client after the steps. -/
def after (flavor : Flavor) (s : Client) (steps : List Step) : Client :=
  steps.foldl (fun s step => (perform flavor s step).2) s

end Scenario

end ClientTransaction
