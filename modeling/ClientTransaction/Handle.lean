import ClientTransaction.Error

/-!
# Handle — the outcome of an operation that ends later

A caller gets a handle when it starts an operation. The handle is resolved once, and its outcome can
be taken once. A caller who polls an unresolved handle is woken when it is resolved. A dropped
handle has no name any more, and an outcome that comes for it is discarded.
-/

namespace ClientTransaction

/-- What is known of an outcome. -/
inductive HandleState (α : Type)
  /-- Nothing yet; `watched` tells whether someone is to be woken. -/
  | pending (watched : Bool)
  | resolved (result : Except Error α)
  /-- The outcome was taken, or nobody holds the handle. -/
  | spent
  deriving Repr

/-- A handle and the name under which a caller holds it. -/
structure Handle (α : Type) where
  name : Option String
  state : HandleState α
  deriving Repr

namespace Handle

variable {α : Type}

def fresh (name : Option String) : Handle α :=
  ⟨name, .pending false⟩

def ready (name : Option String) (result : Except Error α) : Handle α :=
  ⟨name, .resolved result⟩

/-- Someone can still ask for the outcome. -/
def isHeld (h : Handle α) : Bool :=
  h.name.isSome

def isResolved (h : Handle α) : Bool :=
  match h.state with
  | .pending _ => false
  | _ => true

/-- The outcome arrives. An outcome that nobody waits for is discarded. -/
def resolve (h : Handle α) (result : Except Error α) : Handle α :=
  match h.name, h.state with
  | some _, .pending _ => { h with state := .resolved result }
  | _, _ => h

/-- The name of the one to be woken when the handle is resolved. -/
def sleeper? (h : Handle α) : Option String :=
  match h.state with
  | .pending true => h.name
  | _ => none

/-- Takes the outcome if it is there. A second time the handle has nothing to give. -/
def take (h : Handle α) : Option (Except Error α) × Handle α :=
  match h.state with
  | .pending _ => (none, h)
  | .resolved result => (some result, { h with state := .spent })
  | .spent => (some (.error .handleSpent), h)

/-- Nobody holds the handle any more. -/
def drop (h : Handle α) : Handle α :=
  { h with name := none, state := .spent }

/-- Takes the outcome and lets the handle go, or asks to be woken. -/
def poll (h : Handle α) : Option (Except Error α) × Handle α :=
  match h.state with
  | .pending _ => (none, { h with state := .pending true })
  | .resolved result => (some result, h.drop)
  | .spent => (some (.error .handleSpent), h.drop)

/-- The place of the handle that is held under `name`. -/
def find? (handles : List (Handle α)) (name : String) : Option Nat :=
  handles.findIdx? fun h => h.name = some name

end Handle

end ClientTransaction
