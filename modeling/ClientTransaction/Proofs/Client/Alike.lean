import ClientTransaction.Proofs.Client.Calm

/-!
# Client.Alike — clients that differ only in who waits for what

Two clients are alike if they share their transactions, their results and their connection, and have
sent the same requests. Their handles may differ, and so may the times at which replies came and who
was told of them. A reply whose handler has no completion takes clients that are alike to clients
that are alike.
-/

namespace ClientTransaction

/-- A request that is sent. -/
@[simp]
def Event.request? : Event → Option Event
  | .run tx exchange statement params => some (.run tx exchange statement params)
  | .pullAll tx exchange => some (.pullAll tx exchange)
  | _ => none

namespace Client

/-- The RUNs and PULL_ALLs that were sent, in order. -/
def sentRequests (s : Client) : List Event :=
  s.seen Event.request?

structure Alike (s s' : Client) : Prop where
  transactions : s.transactions = s'.transactions
  cursors : s.cursors = s'.cursors
  connection : s.connection = s'.connection
  requests : s.sentRequests = s'.sentRequests

namespace Alike

variable {s s' s₁ s₂ : Client}

theorem refl (s : Client) : Alike s s :=
  ⟨rfl, rfl, rfl, rfl⟩

theorem symm (h : Alike s s') : Alike s' s :=
  ⟨h.transactions.symm, h.cursors.symm, h.connection.symm, h.requests.symm⟩

theorem trans (h : Alike s s₁) (h' : Alike s₁ s₂) : Alike s s₂ :=
  ⟨h.transactions.trans h'.transactions, h.cursors.trans h'.cursors,
    h.connection.trans h'.connection, h.requests.trans h'.requests⟩

/-! ## What only one client does -/

theorem record (s : Client) {e : Event} (he : e.request? = none) : Alike s (s.record e) := by
  refine ⟨rfl, rfl, rfl, ?_⟩
  rw [sentRequests, sentRequests, seen_record, he]
  simp

theorem addHandle (s : Client) (h : Handle Payload) : Alike s (s.addHandle h) :=
  ⟨rfl, rfl, rfl, rfl⟩

theorem resolve (s : Client) (handle : Nat) (result : Except Error Payload) :
    Alike s (s.resolve handle result) := by
  unfold Client.resolve
  cases s.handles[handle]? with
  | none => exact refl s
  | some h =>
      have hset : Alike s { s with handles := s.handles.set handle (h.resolve result) } :=
        ⟨rfl, rfl, rfl, rfl⟩
      dsimp only
      split
      · exact hset.trans (record _ rfl)
      · exact hset

theorem resolveAll (s : Client) (handles : List Nat) (result : Except Error Payload) :
    Alike s (s.resolveAll handles result) := by
  unfold Client.resolveAll
  induction handles generalizing s with
  | nil => exact refl s
  | cons handle rest ih => exact (resolve s handle result).trans (ih _)

/-! ## What both do -/

theorem note (h : Alike s s') {e f : Event} (he : e.request? = none) (hf : f.request? = none) :
    Alike (s.record e) (s'.record f) :=
  (record s he).symm.trans (h.trans (record s' hf))

theorem updateTransaction (h : Alike s s') (tx : Nat) (f : Transaction → Transaction) :
    Alike (s.updateTransaction tx f) (s'.updateTransaction tx f) :=
  ⟨congrArg (fun ts => ts.modify tx f) h.transactions, h.cursors, h.connection, h.requests⟩

theorem updateCursor (h : Alike s s') (cursor : Nat) (f : Cursor → Cursor) :
    Alike (s.updateCursor cursor f) (s'.updateCursor cursor f) :=
  ⟨h.transactions, congrArg (fun cs => cs.modify cursor f) h.cursors, h.connection, h.requests⟩

theorem updateConnection (h : Alike s s') (f : Connection → Connection) :
    Alike (s.updateConnection f) (s'.updateConnection f) :=
  ⟨h.transactions, h.cursors, congrArg f h.connection, h.requests⟩

theorem addCursor (h : Alike s s') (c : Cursor) : Alike (s.addCursor c) (s'.addCursor c) :=
  ⟨h.transactions, congrArg (fun cs => cs ++ [c]) h.cursors, h.connection, h.requests⟩

theorem send (h : Alike s s') (tx : Nat) (exchange : Exchange) (statement : String)
    (params : Params) (onRun onPull : Handler) :
    Alike (s.send tx exchange statement params onRun onPull)
      (s'.send tx exchange statement params onRun onPull) where
  transactions := h.transactions
  cursors := h.cursors
  connection :=
    congrArg (fun c => (c.run tx exchange statement onRun).pullAll tx exchange onPull) h.connection
  requests := by
    unfold sentRequests
    rw [seen_send, seen_send]
    simpa [sentRequests] using h.requests

theorem release (h : Alike s s') (tx : Nat) : Alike (s.release tx) (s'.release tx) :=
  ((h.updateTransaction tx _).note rfl rfl).note rfl rfl

/-! ## Results -/

theorem completeCursor (h : Alike s s') (cursor : Nat) (outcome : Except Error Params) :
    (s.completeCursor cursor outcome).1 = (s'.completeCursor cursor outcome).1 ∧
      Alike (s.completeCursor cursor outcome).2 (s'.completeCursor cursor outcome).2 := by
  unfold Client.completeCursor
  rw [← h.cursors]
  cases s.cursors[cursor]? with
  | none => exact ⟨rfl, h⟩
  | some c =>
      dsimp only
      split
      · exact ⟨rfl, h⟩
      · exact ⟨rfl, (resolveAll _ _ _).symm.trans
          ((h.updateCursor cursor _).trans (resolveAll _ _ _))⟩

theorem finishCursor (h : Alike s s') (tx cursor : Nat) (summary : Params) :
    Alike (s.finishCursor tx cursor summary) (s'.finishCursor tx cursor summary) :=
  (h.completeCursor cursor (.ok summary)).2.note rfl rfl

theorem failCursor (h : Alike s s') (tx cursor : Nat) (e : Error) :
    Alike (s.failCursor tx cursor e) (s'.failCursor tx cursor e) := by
  rcases h.completeCursor cursor (.error e) with ⟨hfirst, halike⟩
  unfold Client.failCursor
  generalize s.completeCursor cursor (.error e) = completed at hfirst halike
  generalize s'.completeCursor cursor (.error e) = completed' at hfirst halike
  rcases completed with ⟨first, s₁⟩
  rcases completed' with ⟨first', s₁'⟩
  cases hfirst
  cases first with
  | true => exact (halike.note rfl rfl).updateTransaction tx _
  | false => exact halike

theorem releaseCursor (h : Alike s s') (requests : List Request) (cursor : Nat) :
    Alike (s.releaseCursor requests cursor) (s'.releaseCursor requests cursor) := by
  unfold Client.releaseCursor Client.holdsCursor
  rw [← h.cursors]
  split
  · exact h
  · cases s.cursors[cursor]? with
    | none => exact h
    | some c =>
        exact (resolveAll _ _ _).symm.trans ((h.updateCursor cursor _).trans (resolveAll _ _ _))

theorem collect (h : Alike s s') (r : Request) : Alike (s.collect r) (s'.collect r) := by
  unfold Client.collect
  split
  · exact h.updateCursor _ _
  · exact h

/-! ## Replies -/

theorem answer (h : Alike s s') (others : List Request) {r : Request}
    (hr : r.handler.ownsCompletion = false) :
    Alike (s.answer others r).1 (s'.answer others r).1 := by
  have hreply := (h.collect r).note (e := .reply r.owner r.exchange r.part r.reply)
    (f := .reply r.owner r.exchange r.part r.reply) rfl rfl
  rcases r with ⟨owner, exchange, part, handler, ⟨records, outcome⟩⟩
  cases handler with
  | ignore => exact hreply
  | columns cursor =>
      cases outcome with
      | success metadata => exact (hreply.updateCursor cursor _).releaseCursor others cursor
      | failure e => exact (hreply.failCursor owner cursor e).releaseCursor others cursor
      | dropped => exact hreply.releaseCursor others cursor
  | rows cursor =>
      cases outcome with
      | success metadata => exact (hreply.finishCursor owner cursor metadata).releaseCursor _ _
      | failure e => exact (hreply.failCursor owner cursor e).releaseCursor others cursor
      | dropped => exact hreply.releaseCursor others cursor
  | bookmark =>
      cases outcome with
      | success metadata => exact hreply.updateTransaction owner _
      | failure e => exact hreply
      | dropped => exact hreply
  | begun handle => simp [Handler.ownsCompletion] at hr
  | committed done => simp [Handler.ownsCompletion] at hr
  | rolledBack done => simp [Handler.ownsCompletion] at hr

end Alike

/-! ## Transactions under replies to statements -/

theorem transactions_completeCursor (s : Client) (cursor : Nat) (outcome : Except Error Params) :
    (s.completeCursor cursor outcome).2.transactions = s.transactions := by
  unfold completeCursor
  split
  · rfl
  · split
    · rfl
    · exact (Alike.resolveAll _ _ _).transactions.symm

theorem transactions_releaseCursor (s : Client) (requests : List Request) (cursor : Nat) :
    (s.releaseCursor requests cursor).transactions = s.transactions := by
  unfold releaseCursor
  split
  · rfl
  · split
    · rfl
    · exact (Alike.resolveAll _ _ _).transactions.symm

end Client

end ClientTransaction
