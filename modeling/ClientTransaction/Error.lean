/-!
# Error — what can go wrong in a transaction

An error says who is to blame: the caller, the server, the connection, the protocol, or nobody when
an operation was abandoned. After a recoverable error the server still answers on the connection;
after any other it does not, and no more messages are sent for the transaction.
-/

namespace ClientTransaction

inductive Error
  /-- The caller broke a rule of the API. -/
  | usage (message : String)
  /-- The server answered with a failure. -/
  | server (code message : String)
  /-- The connection broke. -/
  | connection (message : String)
  /-- The server answered with something that was not asked for. -/
  | protocol (message : String)
  /-- An operation was abandoned before its outcome was known. -/
  | canceled (message : String)
  deriving DecidableEq, Repr, Inhabited

/-- The second segment of a status code says what kind of failure it reports. -/
inductive ErrorClass
  | client
  | transient
  | database
  | unknown
  deriving DecidableEq, Repr

/-! ## Status codes

A code is a list of segments separated by dots: namespace, class, category, title. -/

namespace StatusCode

/-- The pieces between dots; a text without dots is one piece. -/
def splitDots : List Char → List (List Char)
  | [] => [[]]
  | c :: rest =>
      if c = '.' then [] :: splitDots rest
      else
        match splitDots rest with
        | piece :: pieces => (c :: piece) :: pieces
        | [] => [[c]]

def segments (code : String) : List String :=
  (splitDots code.toList).map String.ofList

def classOf (code : String) : ErrorClass :=
  match segments code with
  | _ :: "ClientError" :: _ => .client
  | _ :: "TransientError" :: _ => .transient
  | _ :: "DatabaseError" :: _ => .database
  | _ => .unknown

/-- Client errors about the form of a request mean that the two sides disagree on the protocol. -/
def isProtocolViolation (code : String) : Bool :=
  match segments code with
  | _ :: "ClientError" :: "Request" :: "Invalid" :: _ => true
  | _ :: "ClientError" :: "Request" :: "InvalidFormat" :: _ => true
  | _ => false

end StatusCode

namespace Error

/-- Whether the connection is still usable after the error. -/
def isRecoverable : Error → Bool
  | .server code _ =>
      !StatusCode.isProtocolViolation code &&
        (StatusCode.classOf code == .client || StatusCode.classOf code == .transient)
  | _ => false

def isUsage : Error → Bool
  | .usage _ => true
  | _ => false

/-- The server's status code. -/
def code? : Error → Option String
  | .server code _ => some code
  | _ => none

/-- The text shown to a user. -/
def message : Error → String
  | .usage m => m
  | .server code m => "server error " ++ code ++ ": " ++ m
  | .connection m => "connection error: " ++ m
  | .protocol m => "protocol violation: " ++ m
  | .canceled m => "operation canceled: " ++ m

/-! ## Errors that transactions raise themselves -/

/-- A statement came after a terminal operation had begun. -/
def statementWhileClosing : Error :=
  .usage "Cannot run more statements in this transaction, because it is being closed."

/-- A statement came after the commit. -/
def statementAfterCommit : Error :=
  .usage ("Cannot run more statements in this transaction, because it has been committed. " ++
    "Please start a new transaction to run another statement.")

/-- A statement came after a failure or after the rollback. -/
def statementAfterFailure : Error :=
  .usage ("Cannot run more statements in this transaction, because previous statements in " ++
    "the transaction has failed and the transaction has been rolled back. Please " ++
    "start a new transaction to run another statement.")

/-- A commit came after a failure that had ended the transaction on the server. -/
def commitAfterFailure : Error :=
  .usage ("Cannot commit this transaction, because it has been terminated by a previous " ++
    "failure and rolled back.")

/-- A second terminal operation came while the first one was under way. -/
def alreadyClosing : Error :=
  .usage "Transaction is already being committed or rolled back"

/-- The connection had gone when a commit was due. -/
def closedBeforeCommit : Error :=
  .connection "Connection closed before the transaction could be committed"

/-- A completion was dropped before anyone fired it. -/
def completionDropped : Error :=
  .canceled "completion dropped before the operation finished"

/-- A handle was asked again after it had given its outcome away. -/
def handleSpent : Error :=
  .canceled "pending operation abandoned"

end Error

end ClientTransaction
