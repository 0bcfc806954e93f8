import ClientTransaction.Client.Delivery
import ClientTransaction.Client.History

/-!
# Client.Views — what each operation changes

A transaction has a footing: whether it is claimed and how it ended. Marks, bookmarks and holdings do
not touch it. Each operation of a client is described by the fields that it leaves alone, the events
that it adds to the history, and the footings that it moves.
-/

namespace ClientTransaction

/-! ## Footings -/

/-- Whether a terminal operation has claimed a transaction, and the terminal state if it ended. -/
structure Footing where
  claimed : Bool
  final? : Option State
  deriving DecidableEq, Repr

namespace Transaction

def footing (t : Transaction) : Footing :=
  ⟨t.closing, t.final?⟩

@[simp]
theorem footing_markSuccess (t : Transaction) : t.markSuccess.footing = t.footing := by
  rcases t with ⟨title, reported, state, bookmark, closing, holdings⟩
  cases state <;> rfl

@[simp]
theorem footing_markFailure (t : Transaction) : t.markFailure.footing = t.footing := by
  rcases t with ⟨title, reported, state, bookmark, closing, holdings⟩
  cases state <;> rfl

@[simp]
theorem footing_markFailed (t : Transaction) : t.markFailed.footing = t.footing := by
  rcases t with ⟨title, reported, state, bookmark, closing, holdings⟩
  cases state <;> rfl

@[simp]
theorem footing_resultFailed (e : Error) (t : Transaction) :
    (t.resultFailed e).footing = t.footing := by
  unfold resultFailed
  split <;> simp

@[simp]
theorem footing_setBookmark (b : Bookmark) (t : Transaction) :
    (t.setBookmark b).footing = t.footing := by
  unfold setBookmark
  split <;> rfl

@[simp]
theorem footing_hold (name : String) (own : Bool) (t : Transaction) :
    (t.hold name own).footing = t.footing :=
  rfl

@[simp]
theorem footing_letGo (name : String) (t : Transaction) : (t.letGo name).footing = t.footing :=
  rfl

@[simp]
theorem footing_claim (t : Transaction) : t.claim.footing = ⟨true, t.footing.final?⟩ :=
  rfl

theorem footing_finalize {terminal : State} (h : terminal.isTerminal = true) (t : Transaction) :
    (t.finalize terminal).footing =
      ⟨t.footing.claimed, some (t.footing.final?.getD terminal)⟩ := by
  rcases t with ⟨title, reported, state, bookmark, closing, holdings⟩
  cases terminal <;> simp [State.isTerminal] at h <;> cases state <;> rfl

theorem isOpen_iff_footing (t : Transaction) : t.isOpen = true ↔ t.footing.final? = none := by
  rcases t with ⟨title, reported, state, bookmark, closing, holdings⟩
  cases state <;> simp [isOpen, State.isOpen, State.isTerminal, footing, Transaction.final?]

end Transaction

namespace Client

/-- The footing of a transaction, if there is one at that place. -/
def footing? (s : Client) (tx : Nat) : Option Footing :=
  s.transactions[tx]?.map Transaction.footing

theorem final?_eq (s : Client) (tx : Nat) : s.final? tx = (s.footing? tx).bind Footing.final? := by
  unfold final? footing?
  cases s.transactions[tx]? <;> rfl

/-! ## Single changes -/

section

variable (s : Client)

@[simp]
theorem frame_record (e : Event) :
    (s.record e).transactions = s.transactions ∧ (s.record e).cursors = s.cursors ∧
      (s.record e).handles = s.handles ∧ (s.record e).connection = s.connection ∧
      (s.record e).history = s.history ++ [e] :=
  ⟨rfl, rfl, rfl, rfl, rfl⟩

@[simp]
theorem frame_updateTransaction (tx : Nat) (f : Transaction → Transaction) :
    (s.updateTransaction tx f).transactions = s.transactions.modify tx f ∧
      (s.updateTransaction tx f).cursors = s.cursors ∧
      (s.updateTransaction tx f).handles = s.handles ∧
      (s.updateTransaction tx f).connection = s.connection ∧
      (s.updateTransaction tx f).history = s.history :=
  ⟨rfl, rfl, rfl, rfl, rfl⟩

@[simp]
theorem frame_updateCursor (cursor : Nat) (f : Cursor → Cursor) :
    (s.updateCursor cursor f).transactions = s.transactions ∧
      (s.updateCursor cursor f).cursors = s.cursors.modify cursor f ∧
      (s.updateCursor cursor f).handles = s.handles ∧
      (s.updateCursor cursor f).connection = s.connection ∧
      (s.updateCursor cursor f).history = s.history :=
  ⟨rfl, rfl, rfl, rfl, rfl⟩

@[simp]
theorem frame_updateConnection (f : Connection → Connection) :
    (s.updateConnection f).transactions = s.transactions ∧
      (s.updateConnection f).cursors = s.cursors ∧
      (s.updateConnection f).handles = s.handles ∧
      (s.updateConnection f).connection = f s.connection ∧
      (s.updateConnection f).history = s.history :=
  ⟨rfl, rfl, rfl, rfl, rfl⟩

@[simp]
theorem frame_addTransaction (t : Transaction) :
    (s.addTransaction t).transactions = s.transactions ++ [t] ∧
      (s.addTransaction t).cursors = s.cursors ∧ (s.addTransaction t).handles = s.handles ∧
      (s.addTransaction t).connection = s.connection ∧
      (s.addTransaction t).history = s.history :=
  ⟨rfl, rfl, rfl, rfl, rfl⟩

@[simp]
theorem frame_addCursor (c : Cursor) :
    (s.addCursor c).transactions = s.transactions ∧ (s.addCursor c).cursors = s.cursors ++ [c] ∧
      (s.addCursor c).handles = s.handles ∧ (s.addCursor c).connection = s.connection ∧
      (s.addCursor c).history = s.history :=
  ⟨rfl, rfl, rfl, rfl, rfl⟩

@[simp]
theorem frame_addHandle (h : Handle Payload) :
    (s.addHandle h).transactions = s.transactions ∧ (s.addHandle h).cursors = s.cursors ∧
      (s.addHandle h).handles = s.handles ++ [h] ∧
      (s.addHandle h).connection = s.connection ∧ (s.addHandle h).history = s.history :=
  ⟨rfl, rfl, rfl, rfl, rfl⟩

/-- The requests of an exchange, with the replies that the script has for them. -/
def requests (tx : Nat) (exchange : Exchange) (statement : String) (onRun onPull : Handler) :
    List Request :=
  [⟨tx, exchange, .run, onRun, s.connection.runReply statement⟩,
    ⟨tx, exchange, .pullAll, onPull,
      (s.connection.run tx exchange statement onRun).pullReply⟩]

@[simp]
theorem frame_send (tx : Nat) (exchange : Exchange) (statement : String) (params : Params)
    (onRun onPull : Handler) :
    (s.send tx exchange statement params onRun onPull).transactions = s.transactions ∧
      (s.send tx exchange statement params onRun onPull).cursors = s.cursors ∧
      (s.send tx exchange statement params onRun onPull).handles = s.handles ∧
      (s.send tx exchange statement params onRun onPull).connection.queue =
        s.connection.queue ++ s.requests tx exchange statement onRun onPull ∧
      (s.send tx exchange statement params onRun onPull).history =
        s.history ++ [.run tx exchange statement params, .pullAll tx exchange] := by
  refine ⟨rfl, rfl, rfl, ?_, ?_⟩
  · simp [send, requests, record, updateConnection, Connection.run, Connection.pullAll]
  · simp [send]

@[simp]
theorem frame_release (tx : Nat) :
    (s.release tx).transactions = s.transactions.modify tx (Transaction.finalize .rolledBack) ∧
      (s.release tx).cursors = s.cursors ∧ (s.release tx).handles = s.handles ∧
      (s.release tx).connection = s.connection ∧
      (s.release tx).history = s.history ++
        [.release tx, .closed tx (s.transactions[tx]?.bind Transaction.session?)] := by
  refine ⟨rfl, rfl, rfl, rfl, ?_⟩
  simp [release]

/-- Only the handle that is resolved changes. -/
theorem handles_resolve (handle : Nat) (result : Except Error Payload) :
    (s.resolve handle result).handles = s.handles.modify handle fun h => h.resolve result := by
  have hset : (s.resolve handle result).handles =
      (s.handles[handle]?.map fun h => s.handles.set handle (h.resolve result)).getD s.handles := by
    unfold resolve
    cases s.handles[handle]? with
    | none => rfl
    | some h =>
        dsimp only
        split <;> rfl
  rw [hset]
  apply List.ext_getElem?
  intro i
  rw [List.getElem?_modify]
  by_cases hi : handle = i
  · subst hi
    cases hh : s.handles[handle]? with
    | none => simp [hh]
    | some h => simp [(List.getElem?_eq_some_iff.1 hh).1]
  · cases s.handles[handle]? <;> simp [hi]

end

/-! ## Histories -/

section

variable {α : Type} (view : Event → Option α) (s : Client)

theorem seen_eq_of_history {s s' : Client} {view : Event → Option α} {events : List Event}
    (h : s'.history = s.history ++ events) :
    s'.seen view = s.seen view ++ events.filterMap view := by
  simp [seen, h]

@[simp]
theorem seen_record (e : Event) : (s.record e).seen view = s.seen view ++ (view e).toList := by
  rw [seen_eq_of_history (frame_record s e).2.2.2.2]
  cases h : view e <;> simp [h]

@[simp]
theorem seen_updateTransaction (tx : Nat) (f : Transaction → Transaction) :
    (s.updateTransaction tx f).seen view = s.seen view :=
  rfl

@[simp]
theorem seen_updateCursor (cursor : Nat) (f : Cursor → Cursor) :
    (s.updateCursor cursor f).seen view = s.seen view :=
  rfl

@[simp]
theorem seen_updateConnection (f : Connection → Connection) :
    (s.updateConnection f).seen view = s.seen view :=
  rfl

@[simp]
theorem seen_addTransaction (t : Transaction) : (s.addTransaction t).seen view = s.seen view :=
  rfl

@[simp]
theorem seen_addCursor (c : Cursor) : (s.addCursor c).seen view = s.seen view :=
  rfl

@[simp]
theorem seen_addHandle (h : Handle Payload) : (s.addHandle h).seen view = s.seen view :=
  rfl

@[simp]
theorem seen_send (tx : Nat) (exchange : Exchange) (statement : String) (params : Params)
    (onRun onPull : Handler) :
    (s.send tx exchange statement params onRun onPull).seen view =
      s.seen view ++ (view (.run tx exchange statement params)).toList ++
        (view (.pullAll tx exchange)).toList := by
  rw [seen_eq_of_history (s.frame_send tx exchange statement params onRun onPull).2.2.2.2]
  cases h : view (.run tx exchange statement params) <;>
    cases h' : view (.pullAll tx exchange) <;> simp [h, h']

end

/-! ## Footings under each operation -/

section

variable (s : Client)

theorem footing?_eq_of_transactions {s s' : Client} (h : s'.transactions = s.transactions)
    (tx : Nat) : s'.footing? tx = s.footing? tx := by
  simp [footing?, h]

theorem footing?_updateTransaction (place tx : Nat) (f : Transaction → Transaction) :
    (s.updateTransaction place f).footing? tx =
      if place = tx then s.transactions[tx]?.map fun t => (f t).footing else s.footing? tx := by
  unfold footing?
  by_cases h : place = tx
  · subst h
    simp [Function.comp_def]
  · -- Another place is not touched.
    simp [h]

/-- A change that leaves every footing alone. -/
theorem footing?_updateTransaction_of_eq {f : Transaction → Transaction}
    (hf : ∀ t : Transaction, (f t).footing = t.footing) (place tx : Nat) :
    (s.updateTransaction place f).footing? tx = s.footing? tx := by
  rw [footing?_updateTransaction]
  split
  · simp [hf, footing?]
  · rfl

theorem footing?_claim (place tx : Nat) :
    (s.updateTransaction place Transaction.claim).footing? tx =
      if place = tx then (s.footing? tx).map fun f => ⟨true, f.final?⟩ else s.footing? tx := by
  rw [footing?_updateTransaction]
  split <;> simp [footing?, Function.comp_def]

theorem footing?_finalize {terminal : State} (h : terminal.isTerminal = true) (place tx : Nat) :
    (s.updateTransaction place (Transaction.finalize terminal)).footing? tx =
      if place = tx then
        (s.footing? tx).map fun f => ⟨f.claimed, some (f.final?.getD terminal)⟩
      else s.footing? tx := by
  rw [footing?_updateTransaction]
  split <;> simp [footing?, Function.comp_def, Transaction.footing_finalize h]

theorem footing?_release (place tx : Nat) :
    (s.release place).footing? tx =
      if place = tx then
        (s.footing? tx).map fun f => ⟨f.claimed, some (f.final?.getD .rolledBack)⟩
      else s.footing? tx := by
  -- The two events of a release move no footing.
  rw [← footing?_finalize s rfl]
  exact footing?_eq_of_transactions rfl tx

theorem endings_release (place tx : Nat) :
    (s.release place).endings tx =
      s.endings tx ++ if place = tx then [.released, .notified] else [] := by
  unfold endings
  rw [seen_eq_of_history (s.frame_release place).2.2.2.2]
  by_cases h : place = tx <;> simp [h]

end

end Client

end ClientTransaction
