/-!
# Lifecycle — the states of a transaction

An open transaction is active, marked for commit, marked for rollback, or failed; in this order a
mark can only move it up. It ends committed or rolled back and stays so.
-/

namespace ClientTransaction

inductive State
  | active
  /-- The application asked for a commit. -/
  | markedSuccess
  /-- The application asked for a rollback, or a statement failed. -/
  | markedFailed
  /-- The server has already given the transaction up. -/
  | failed
  | committed
  | rolledBack
  deriving DecidableEq, Repr, Inhabited

namespace State

def isTerminal : State → Bool
  | .committed | .rolledBack => true
  | _ => false

def isOpen (s : State) : Bool :=
  !s.isTerminal

/-- Statements may run until the transaction is marked for rollback or has failed. -/
def acceptsStatements : State → Bool
  | .active | .markedSuccess => true
  | _ => false

/-! ## Transitions -/

/-- A wish to commit counts only while nothing else has been said. -/
def markSuccess : State → State
  | .active => .markedSuccess
  | s => s

/-- A wish to roll back overrides a wish to commit. -/
def markFailure : State → State
  | .active | .markedSuccess => .markedFailed
  | s => s

/-- A failure that ends the conversation with the server overrides every wish. -/
def markFailed (s : State) : State :=
  if s.isTerminal then s else .failed

/-- The first terminal state stands. -/
def finalize (s terminal : State) : State :=
  if s.isTerminal then s else terminal

/-! ## Names -/

def all : List State :=
  [.active, .markedSuccess, .markedFailed, .failed, .committed, .rolledBack]

/-- The name in the style of the protocol. -/
def name : State → String
  | .active => "ACTIVE"
  | .markedSuccess => "MARKED_SUCCESS"
  | .markedFailed => "MARKED_FAILED"
  | .failed => "FAILED"
  | .committed => "COMMITTED"
  | .rolledBack => "ROLLED_BACK"

/-- The name in stored data. -/
def tag : State → String
  | .active => "Active"
  | .markedSuccess => "MarkedSuccess"
  | .markedFailed => "MarkedFailed"
  | .failed => "Failed"
  | .committed => "Committed"
  | .rolledBack => "RolledBack"

def ofName? (name : String) : Option State :=
  all.find? fun s => s.name = name

def ofTag? (tag : String) : Option State :=
  all.find? fun s => s.tag = tag

end State

end ClientTransaction
