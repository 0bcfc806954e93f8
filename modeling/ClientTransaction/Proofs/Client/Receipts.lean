import ClientTransaction.Proofs.Client.Calm

/-!
# Client.Receipts — the replies that have come

The history tells which requests have come to their end, and with which replies. Only answering a
request adds to them, and it adds its own reply and no other, whatever its handler does.
-/

namespace ClientTransaction

/-- A reply, and what it was a reply to. -/
structure Receipt where
  owner : Nat
  exchange : Exchange
  part : Part
  reply : Reply
  deriving Repr

/-- The outcome, if the reply is one to the PULL_ALL of an exchange of the transaction. -/
def Receipt.answer? (tx : Nat) (exchange : Exchange) (r : Receipt) : Option Outcome :=
  if r.owner = tx ∧ r.exchange = exchange ∧ r.part = .pullAll then some r.reply.outcome else none

/-- The reply that the request gets. -/
def Request.receipt (r : Request) : Receipt :=
  ⟨r.owner, r.exchange, r.part, r.reply⟩

@[simp]
def Event.receipt? : Event → Option Receipt
  | .reply tx exchange part given => some ⟨tx, exchange, part, given⟩
  | _ => none

namespace Client

/-- The replies that have come, in order. -/
def receipts (s : Client) : List Receipt :=
  s.seen Event.receipt?

section

variable (s : Client)

theorem answers_eq_receipts (tx : Nat) (exchange : Exchange) :
    s.answers tx exchange = s.receipts.filterMap (Receipt.answer? tx exchange) := by
  unfold answers receipts seen
  rw [List.filterMap_filterMap]
  refine congrArg (fun view => s.history.filterMap view) (funext fun e => ?_)
  cases e with
  | reply owner sent part given => cases part <;> simp [Receipt.answer?]
  | _ => rfl

theorem receipts_record {e : Event} (he : e.receipt? = none) :
    (s.record e).receipts = s.receipts := by
  rw [receipts, seen_record, he, Option.toList_none, List.append_nil]
  rfl

theorem receipts_calm {s s' : Client} (h : s.Calm s') : s'.receipts = s.receipts := by
  refine h.seen fun e he => ?_
  cases e with
  | reply => exact he.elim
  | _ => rfl

@[simp]
theorem receipts_addHandle (h : Handle Payload) : (s.addHandle h).receipts = s.receipts :=
  rfl

@[simp]
theorem receipts_send (tx : Nat) (exchange : Exchange) (statement : String) (params : Params)
    (onRun onPull : Handler) :
    (s.send tx exchange statement params onRun onPull).receipts = s.receipts := by
  simp [receipts]

@[simp]
theorem receipts_release (tx : Nat) : (s.release tx).receipts = s.receipts := by
  unfold release
  rw [receipts_record _ rfl, receipts_record _ rfl]
  rfl

@[simp]
theorem receipts_resolve (handle : Nat) (result : Except Error Payload) :
    (s.resolve handle result).receipts = s.receipts := by
  unfold resolve
  split
  · rfl
  · dsimp only
    split
    · exact receipts_record _ rfl
    · rfl

theorem receipts_runFinalizers (tx : Nat) (actions : List (Finalizer × Except Error Unit)) :
    (s.runFinalizers tx actions).receipts = s.receipts := by
  induction actions generalizing s with
  | nil => rfl
  | cons action rest ih =>
      rcases action with ⟨⟨⟩, shown⟩
      exact (ih _).trans (s.receipts_release tx)

@[simp]
theorem receipts_fire (tx : Nat) (done : TerminalChain) (result : Except Error Unit) :
    (s.fire tx done result).1.receipts = s.receipts := by
  have hactions := s.receipts_runFinalizers tx (done.fire result).1
  unfold fire
  dsimp only
  split
  · exact (receipts_resolve _ _ _).trans hactions
  · exact hactions
  · exact hactions

@[simp]
theorem receipts_abandon (requests : List Request) (tx : Nat) :
    (s.abandon requests tx).1.receipts = s.receipts := by
  unfold abandon
  split
  · rfl
  · split
    · rfl
    · dsimp only
      split
      · exact receipts_release _ tx
      · rfl

@[simp]
theorem receipts_refuse (tx handle : Nat) (e : Error) :
    (s.refuse tx handle e).receipts = s.receipts := by
  unfold refuse
  rw [receipts_resolve]
  split
  · rfl
  · exact receipts_release _ tx

/-- A request that is answered leaves its reply, and nothing else is left of it. -/
theorem receipts_answer (others : List Request) (r : Request) :
    (s.answer others r).1.receipts = s.receipts ++ [r.receipt] := by
  have hreply : ((s.collect r).record (.reply r.owner r.exchange r.part r.reply)).receipts =
      s.receipts ++ [r.receipt] := by
    have hrows : (s.collect r).receipts = s.receipts := by
      unfold collect
      split <;> rfl
    simp only [receipts, seen_record, Event.receipt?, Option.toList_some, Request.receipt]
    exact congrArg (· ++ [_]) hrows
  rcases r with ⟨owner, exchange, part, handler, ⟨records, outcome⟩⟩
  cases handler with
  | begun handle =>
      cases outcome with
      | success metadata =>
          exact ((receipts_abandon _ _ _).trans (receipts_resolve _ _ _)).trans hreply
      | failure e => exact (receipts_refuse _ _ _ _).trans hreply
      | dropped => exact (receipts_refuse _ _ _ _).trans hreply
  | committed done =>
      cases outcome with
      | success metadata => exact (receipts_fire _ _ _ _).trans hreply
      | failure e => exact (receipts_fire _ _ _ _).trans hreply
      | dropped => exact (receipts_fire _ _ _ _).trans hreply
  | rolledBack done =>
      cases outcome with
      | success metadata => exact (receipts_fire _ _ _ _).trans hreply
      | failure e => exact (receipts_fire _ _ _ _).trans hreply
      | dropped => exact (receipts_fire _ _ _ _).trans hreply
  | _ => exact (receipts_calm (s.calm_answer others rfl).1).trans (by
      simp [receipts, Request.receipt])

@[simp]
theorem receipts_start (rollback : Option Rollback) :
    (s.start rollback).receipts = s.receipts := by
  cases rollback with
  | none => rfl
  | some r => exact (receipts_record _ rfl).trans (s.receipts_send _ _ _ _ _ _)

end

end Client

end ClientTransaction
