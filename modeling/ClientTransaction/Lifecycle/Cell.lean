import ClientTransaction.Lifecycle

/-!
# Lifecycle.Cell — a place that holds a state

A cell is changed by transitions only. Each operation reports what it found, so that of several
callers who try to end a transaction exactly one learns that it did.
-/

namespace ClientTransaction

structure Cell where
  state : State := .active
  deriving DecidableEq, Repr

namespace Cell

/-- Applies a transition; the answer is the state before and after. -/
def update (c : Cell) (transition : State → State) : (State × State) × Cell :=
  ((c.state, transition c.state), ⟨transition c.state⟩)

/-- Moves to a terminal state. The answer is the state before, or the error that a terminal state
had been reached earlier, with that state. -/
def finalize (c : Cell) (terminal : State) : Except State State × Cell :=
  if c.state.isTerminal then (.error c.state, c) else (.ok c.state, ⟨terminal⟩)

/-! ## Operations as data -/

inductive Step
  | load
  | markSuccess
  | markFailure
  | markFailed
  | set (target : State)
  | finalize (target : State)
  deriving DecidableEq, Repr

inductive Answer
  | state (s : State)
  | transition (before after : State)
  | finalized (result : Except State State)
  deriving Repr

def perform (c : Cell) (step : Step) : Answer × Cell :=
  let updated (transition : State → State) : Answer × Cell :=
    let ((before, after), c) := c.update transition
    (.transition before after, c)
  match step with
  | .load => (.state c.state, c)
  | .markSuccess => updated State.markSuccess
  | .markFailure => updated State.markFailure
  | .markFailed => updated State.markFailed
  | .set target => updated fun _ => target
  | .finalize target =>
      let (result, c) := c.finalize target
      (.finalized result, c)

end Cell

end ClientTransaction
