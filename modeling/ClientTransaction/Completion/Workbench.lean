import ClientTransaction.Completion
import ClientTransaction.Handle

/-!
# Completion.Workbench — building and firing chains by name

A workbench holds completions, handles and parked secondary operations under names, and a log of
what was called. Its steps build chains link by link and fire them. A name that is taken anew drops
what it stood for: a chain under the name of a new one, and a chain that waits for an operation
whose name is taken by another operation. A chain that is dropped is fired as soon as the new one is
in place, and may take names in its turn, so a step fires one chain after the other until none is in
hand.
-/

namespace ClientTransaction.Workbench

/-- What receives an outcome: a handle by its place, a caller by its name, or nobody. -/
inductive Sink
  | handle (place : Nat)
  | callback (name : String)
  | ignored
  deriving Repr

/-- How a secondary operation behaves when it is started. -/
inductive Behaviour
  | finish (result : Except Error String)
  | drop
  | park
  deriving Repr

structure Secondary where
  name : String
  behaviour : Behaviour
  deriving Repr

/-- A chain on the workbench; finalizers are known by their names. -/
abbrev Chain :=
  Completion Sink String Secondary

inductive Event
  | callback (name : String) (result : Except Error String)
  | finalizer (name : String) (result : Except Error String)
  | secondary (name : String)
  | wake (name : String)
  deriving Repr

end Workbench

structure Workbench where
  slots : List (String × Workbench.Chain) := []
  parked : List (String × Workbench.Chain) := []
  handles : List (Handle String) := []
  log : List Workbench.Event := []
  deriving Repr

namespace Workbench

def record (w : Workbench) (e : Event) : Workbench :=
  { w with log := w.log ++ [e] }

def remove (entries : List (String × Chain)) (name : String) : List (String × Chain) :=
  entries.filter fun entry => entry.1 ≠ name

/-- What is on the workbench, and the chain in hand with the outcome that it is fired with next. -/
structure Moment where
  bench : Workbench := {}
  hand : Option (Chain × Except Error String) := none
  deriving Repr

/-! ## Firing -/

/-- The sink receives the outcome. -/
def settle (w : Workbench) (target : Sink) (result : Except Error String) : Workbench :=
  match target with
  | .handle place =>
      match w.handles[place]? with
      | none => w
      | some h =>
          let w := { w with handles := w.handles.set place (h.resolve result) }
          match h.sleeper? with
          | some name => w.record (.wake name)
          | none => w
  | .callback name => w.record (.callback name result)
  | .ignored => w

/-- A chain that is to be dropped. -/
def dropped (chain : Chain) : Chain × Except Error String :=
  (chain, .error .completionDropped)

/-- A chain waits for the secondary operation of that name. -/
def park (w : Workbench) (name : String) (chain : Chain) : Moment where
  bench := { w with parked := (name, chain) :: remove w.parked name }
  -- The new chain is in place when the earlier one is dropped.
  hand := (w.parked.lookup name).map dropped

/-- The number of fallbacks in chains that wait. -/
def fallbacksOf : List (String × Chain) → Nat
  | [] => 0
  | (_, chain) :: entries => chain.fallbacks + fallbacksOf entries

/-- Fires a chain until it waits or has come to its sink, and what is left of it again after each
secondary operation that ends at once. The number of fallbacks in the chain bounds their number. -/
def fireWith : Nat → Workbench → Chain → Except Error String → Moment
  | bound, w, chain, result =>
      let (actions, stop) := chain.fire result
      let w := actions.foldl (fun w (name, shown) => w.record (.finalizer name shown)) w
      match stop with
      | .settled target result => { bench := w.settle target result }
      | .started secondary rest =>
          let w := w.record (.secondary secondary.name)
          match secondary.behaviour, bound with
          | .finish outcome, bound + 1 => fireWith bound w rest outcome
          | .drop, bound + 1 => fireWith bound w rest (.error .completionDropped)
          | _, _ => w.park secondary.name rest

def fire (w : Workbench) (chain : Chain) (result : Except Error String) : Moment :=
  fireWith chain.fallbacks w chain result

namespace Moment

/-- The chain in hand is fired. -/
def fired (m : Moment) : Moment :=
  match m.hand with
  | some (chain, result) => m.bench.fire chain result
  | none => m

/-- The number of fallbacks in the chains that are in hand or wait. Those that have been started are
not counted, so it gets less with every chain that is fired and leaves another one in hand. -/
def fallbacks (m : Moment) : Nat :=
  match m.hand with
  | some (chain, _) => chain.fallbacks + fallbacksOf m.bench.parked
  | none => fallbacksOf m.bench.parked

/-- Fires what is in hand, as often as the bound allows. -/
def settleWith : Nat → Moment → Workbench
  | 0, m => m.bench
  | bound + 1, m => settleWith bound m.fired

/-- The workbench when nothing is in hand any more. -/
def settled (m : Moment) : Workbench :=
  m.settleWith (m.fallbacks + 1)

end Moment

/-! ## Steps -/

inductive Step
  | pending (name : String)
  | callback (name : String)
  | ignore (name : String)
  | onCompletion (name done : String)
  | fallback (name done : String) (behaviour : Behaviour)
  | complete (name : String) (result : Except Error String)
  | drop (name : String)
  | completeSecondary (name : String) (result : Except Error String)
  | dropSecondary (name : String)
  | describe (name : String)
  | ready (name : String) (result : Except Error String)
  | take (name : String)
  | poll (name : String)
  | dropHandle (name : String)
  deriving Repr

inductive Answer
  | done
  | missing
  | pending
  | result (r : Except Error String)
  | text (s : String)
  deriving Repr

/-- Puts a chain under a name. -/
def store (w : Workbench) (name : String) (chain : Chain) : Moment where
  bench := { w with slots := (name, chain) :: remove w.slots name }
  hand := (w.slots.lookup name).map dropped

/-- Adds a handle; an earlier one of its name is dropped. -/
def addHandle (w : Workbench) (h : Handle String) : Workbench :=
  let earlier := w.handles.map fun other => if other.name = h.name then other.drop else other
  { w with handles := earlier ++ [h] }

/-- Wraps the chain called `done` in one more link, under a new name. -/
def wrap (w : Workbench) (name done : String) (link : Chain → Chain) : Answer × Moment :=
  match w.slots.lookup done with
  | none => (.missing, { bench := w })
  | some chain => (.done, { w with slots := remove w.slots done }.store name (link chain))

/-- Takes the chain called `name` in hand. -/
def finish (w : Workbench) (name : String) (result : Except Error String) : Answer × Moment :=
  match w.slots.lookup name with
  | none => (.missing, { bench := w })
  | some chain =>
      (.done, { bench := { w with slots := remove w.slots name }, hand := some (chain, result) })

/-- Takes the chain in hand that waits for the secondary operation called `name`. -/
def finishParked (w : Workbench) (name : String) (result : Except Error String) :
    Answer × Moment :=
  match w.parked.lookup name with
  | none => (.missing, { bench := w })
  | some chain =>
      (.done, { bench := { w with parked := remove w.parked name }, hand := some (chain, result) })

/-- Asks the handle called `name`. -/
def ask (w : Workbench) (name : String)
    (question : Handle String → Option (Except Error String) × Handle String) :
    Answer × Workbench :=
  match Handle.find? w.handles name with
  | none => (.missing, w)
  | some place =>
      match w.handles[place]? with
      | none => (.missing, w)
      | some h =>
          let (outcome, h) := question h
          let w := { w with handles := w.handles.set place h }
          match outcome with
          | some result => (.result result, w)
          | none => (.pending, w)

/-- Lets the handle called `name` go. -/
def dropHandle (w : Workbench) (name : String) : Answer × Workbench :=
  match Handle.find? w.handles name with
  | none => (.missing, w)
  | some place => (.done, { w with handles := w.handles.modify place Handle.drop })

/-- What a step comes to before a chain is fired. -/
def start (w : Workbench) : Step → Answer × Moment
  | .pending name =>
      (.done, (w.addHandle (.fresh (some name))).store name (.sink (.handle w.handles.length)))
  | .callback name => (.done, w.store name (.sink (.callback name)))
  | .ignore name => (.done, w.store name (.sink .ignored))
  | .onCompletion name done => w.wrap name done (.finalizer name)
  | .fallback name done behaviour => w.wrap name done (.fallback ⟨name, behaviour⟩)
  | .complete name result => w.finish name result
  | .drop name => w.finish name (.error .completionDropped)
  | .completeSecondary name result => w.finishParked name result
  | .dropSecondary name => w.finishParked name (.error .completionDropped)
  | .describe name =>
      match w.slots.lookup name with
      | none => (.missing, { bench := w })
      | some _ => (.text "Completion \x7b pending: true \x7d", { bench := w })
  | .ready name result => (.done, { bench := w.addHandle (.ready (some name) result) })
  | .take name => (w.ask name Handle.take).map id fun w => { bench := w }
  | .poll name => (w.ask name Handle.poll).map id fun w => { bench := w }
  | .dropHandle name => (w.dropHandle name).map id fun w => { bench := w }

def perform (w : Workbench) (step : Step) : Answer × Workbench :=
  (w.start step).map id Moment.settled

end Workbench

end ClientTransaction
