import ClientTransaction.Error

/-!
# Completion — chains of continuations

A completion is what is left to do when an operation ends. It is built around a sink, which receives
the outcome at last. A finalizer is run on either outcome and passes it on. A fallback starts a
secondary operation when the outcome is an error and holds the error back until that operation has
ended, whatever its own outcome. Dropping a completion counts as firing it with an error of its own.
-/

namespace ClientTransaction

/-- A chain over a sink of type `β`, with finalizers of type `φ` and secondary operations of type
`σ`. The outermost link comes first. -/
inductive Completion (β φ σ : Type)
  | sink (target : β)
  | finalizer (action : φ) (done : Completion β φ σ)
  | fallback (secondary : σ) (done : Completion β φ σ)
  /-- The completion of a secondary operation: the error held back is passed on. -/
  | resume (primary : Error) (done : Completion β φ σ)
  deriving Repr

/-- Where an outcome gets to at once. -/
inductive Completion.Stop (α β φ σ : Type)
  /-- The sink receives the outcome. -/
  | settled (target : β) (result : Except Error α)
  /-- A secondary operation is to be started; `rest` is fired when it ends. -/
  | started (secondary : σ) (rest : Completion β φ σ)
  deriving Repr

namespace Completion

variable {α β φ σ : Type}

/-- Fires the chain: the finalizers that run, in order, each with the outcome it is shown, and where
the outcome gets to. -/
def fire : Completion β φ σ → Except Error α → List (φ × Except Error α) × Stop α β φ σ
  | .sink target, result => ([], .settled target result)
  | .finalizer action done, result =>
      let (actions, stop) := done.fire result
      ((action, result) :: actions, stop)
  | .fallback _ done, .ok value => done.fire (.ok value)
  | .fallback secondary done, .error primary => ([], .started secondary (.resume primary done))
  | .resume primary done, _ => done.fire (.error primary)

/-- Drops the chain without an outcome. -/
def abandon (c : Completion β φ σ) : List (φ × Except Error α) × Stop α β φ σ :=
  c.fire (.error .completionDropped)

/-- The number of secondary operations that the chain can still start. -/
def fallbacks : Completion β φ σ → Nat
  | .sink _ => 0
  | .fallback _ done => done.fallbacks + 1
  | .finalizer _ done | .resume _ done => done.fallbacks

end Completion

end ClientTransaction
