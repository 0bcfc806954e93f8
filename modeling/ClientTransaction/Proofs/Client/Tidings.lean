import ClientTransaction.Proofs.Client.Names
import ClientTransaction.Proofs.Client.Receipts

/-!
# Client.Tidings — what transactions are told of their results

A transaction is told when the results of a statement have come, and when the statement has failed.
Only the replies to statements bring such tidings: a success of a PULL_ALL always does, a failure
only if it is what ends the stream.
-/

namespace ClientTransaction

/-- What a transaction is told of a statement. -/
inductive Tiding
  | fetched
  | failed (e : Error)
  deriving Repr

/-- A statement, by the place of its cursor, and what is told of it. -/
@[simp]
def Event.tiding? : Event → Option (Nat × Tiding)
  | .fetched _ cursor => some (cursor, .fetched)
  | .statementFailed _ cursor e => some (cursor, .failed e)
  | _ => none

namespace Client

/-- What was told of statements, in order. -/
def tidings (s : Client) : List (Nat × Tiding) :=
  s.seen Event.tiding?

section

variable (s : Client)

theorem tidings_record {e : Event} (he : e.tiding? = none) : (s.record e).tidings = s.tidings := by
  rw [tidings, seen_record, he, Option.toList_none, List.append_nil]
  rfl

@[simp]
theorem tidings_send (tx : Nat) (exchange : Exchange) (statement : String) (params : Params)
    (onRun onPull : Handler) :
    (s.send tx exchange statement params onRun onPull).tidings = s.tidings := by
  simp [tidings]

@[simp]
theorem tidings_release (tx : Nat) : (s.release tx).tidings = s.tidings := by
  unfold release
  rw [tidings_record _ rfl, tidings_record _ rfl]
  rfl

@[simp]
theorem tidings_resolve (handle : Nat) (result : Except Error Payload) :
    (s.resolve handle result).tidings = s.tidings := by
  unfold resolve
  split
  · rfl
  · dsimp only
    split
    · exact tidings_record _ rfl
    · rfl

@[simp]
theorem tidings_resolveAll (handles : List Nat) (result : Except Error Payload) :
    (s.resolveAll handles result).tidings = s.tidings := by
  induction handles generalizing s with
  | nil => rfl
  | cons handle rest ih => exact (ih _).trans (s.tidings_resolve handle result)

@[simp]
theorem tidings_releaseCursor (requests : List Request) (cursor : Nat) :
    (s.releaseCursor requests cursor).tidings = s.tidings := by
  unfold releaseCursor
  split
  · rfl
  · split
    · rfl
    · exact tidings_resolveAll _ _ _

theorem tidings_dropCursor (cursor : Nat) : (s.dropCursor cursor).tidings = s.tidings :=
  tidings_releaseCursor _ _ _

theorem tidings_runFinalizers (tx : Nat) (actions : List (Finalizer × Except Error Unit)) :
    (s.runFinalizers tx actions).tidings = s.tidings := by
  induction actions generalizing s with
  | nil => rfl
  | cons action rest ih =>
      rcases action with ⟨⟨⟩, shown⟩
      exact (ih _).trans (s.tidings_release tx)

@[simp]
theorem tidings_fire (tx : Nat) (done : TerminalChain) (result : Except Error Unit) :
    (s.fire tx done result).1.tidings = s.tidings := by
  have hactions := s.tidings_runFinalizers tx (done.fire result).1
  unfold fire
  dsimp only
  split
  · exact (tidings_resolve _ _ _).trans hactions
  · exact hactions
  · exact hactions

@[simp]
theorem tidings_abandon (requests : List Request) (tx : Nat) :
    (s.abandon requests tx).1.tidings = s.tidings := by
  unfold abandon
  split
  · rfl
  · split
    · rfl
    · dsimp only
      split
      · exact tidings_release _ tx
      · rfl

@[simp]
theorem tidings_refuse (tx handle : Nat) (e : Error) :
    (s.refuse tx handle e).tidings = s.tidings := by
  unfold refuse
  rw [tidings_resolve]
  split
  · rfl
  · exact tidings_release _ tx

@[simp]
theorem tidings_start (rollback : Option Rollback) :
    (s.start rollback).tidings = s.tidings := by
  cases rollback with
  | none => rfl
  | some r => exact (tidings_record _ rfl).trans (s.tidings_send _ _ _ _ _ _)

/-! ## Replies -/

/-- The stream of a statement has not ended. -/
def streams (cursor : Nat) : Bool :=
  s.cursors[cursor]?.any fun c => !c.isComplete

/-- What a request makes its transaction be told when it is answered. -/
def tidingsOf (r : Request) : List (Nat × Tiding) :=
  match r.handler, r.reply.outcome with
  | .rows cursor, .success _ => [(cursor, .fetched)]
  | .columns cursor, .failure e | .rows cursor, .failure e =>
      if s.streams cursor then [(cursor, .failed e)] else []
  | _, _ => []

theorem tidings_completeCursor (cursor : Nat) (outcome : Except Error Params) :
    (s.completeCursor cursor outcome).2.tidings = s.tidings := by
  unfold completeCursor
  split
  · rfl
  · split
    · rfl
    · exact tidings_resolveAll _ _ _

theorem fst_completeCursor (cursor : Nat) (outcome : Except Error Params) :
    (s.completeCursor cursor outcome).1 = s.streams cursor := by
  unfold completeCursor streams
  cases s.cursors[cursor]? with
  | none => rfl
  | some c => cases hc : c.isComplete <;> simp [hc]

theorem tidings_finishCursor (tx cursor : Nat) (summary : Params) :
    (s.finishCursor tx cursor summary).tidings = s.tidings ++ [(cursor, .fetched)] := by
  have hcompleted := s.tidings_completeCursor cursor (.ok summary)
  simp only [tidings] at hcompleted
  simp [finishCursor, tidings, hcompleted]

theorem tidings_failCursor (tx cursor : Nat) (e : Error) :
    (s.failCursor tx cursor e).tidings =
      s.tidings ++ if s.streams cursor then [(cursor, .failed e)] else [] := by
  have hcompleted := s.tidings_completeCursor cursor (.error e)
  rw [← s.fst_completeCursor cursor (.error e)]
  simp only [tidings] at hcompleted
  unfold failCursor
  split <;> rename_i heq <;> rw [heq] at hcompleted ⊢
  · simp [tidings, hcompleted]
  · simpa [tidings] using hcompleted

theorem streams_collect (r : Request) (cursor : Nat) :
    (s.collect r).streams cursor = s.streams cursor := by
  unfold collect
  split
  · next place _ =>
    simp only [streams, updateCursor, List.getElem?_modify]
    by_cases hp : place = cursor
    · cases s.cursors[cursor]? <;> simp [hp, Cursor.isComplete, Cursor.outcome_pushAll]
    · cases s.cursors[cursor]? <;> simp [hp]
  · rfl

/-- A request that is answered tells what it has to tell, and nothing else is told. -/
theorem tidings_answer (others : List Request) (r : Request) :
    (s.answer others r).1.tidings = s.tidings ++ s.tidingsOf r := by
  have hnoted : ((s.collect r).record (.reply r.owner r.exchange r.part r.reply)).tidings =
      s.tidings := by
    refine (tidings_record _ rfl).trans ?_
    unfold collect
    split <;> rfl
  have hstreams : ∀ cursor, ((s.collect r).record
      (.reply r.owner r.exchange r.part r.reply)).streams cursor = s.streams cursor :=
    s.streams_collect r
  unfold answer tidingsOf
  dsimp only
  generalize (s.collect r).record _ = s₁ at hnoted hstreams
  rw [← hnoted]
  have hfailed : ∀ cursor e,
      ((s₁.failCursor r.owner cursor e).releaseCursor others cursor).tidings =
        s₁.tidings ++ if s.streams cursor then [(cursor, .failed e)] else [] := by
    intro cursor e
    rw [tidings_releaseCursor, tidings_failCursor, hstreams]
  rcases r with ⟨owner, exchange, part, handler, ⟨rows, outcome⟩⟩
  cases handler with
  | ignore | bookmark => cases outcome <;> exact (List.append_nil _).symm
  | columns cursor =>
      cases outcome with
      | success metadata => exact (tidings_releaseCursor _ _ _).trans (List.append_nil _).symm
      | failure e => exact hfailed cursor e
      | dropped => exact (tidings_releaseCursor _ _ _).trans (List.append_nil _).symm
  | rows cursor =>
      cases outcome with
      | success metadata =>
          exact (tidings_releaseCursor _ _ _).trans (s₁.tidings_finishCursor owner cursor metadata)
      | failure e => exact hfailed cursor e
      | dropped => exact (tidings_releaseCursor _ _ _).trans (List.append_nil _).symm
  | begun handle =>
      rw [List.append_nil]
      cases outcome with
      | success metadata => exact (tidings_abandon _ _ _).trans (tidings_resolve _ _ _)
      | failure e => exact tidings_refuse _ _ _ _
      | dropped => exact tidings_refuse _ _ _ _
  | committed done | rolledBack done =>
      rw [List.append_nil]
      cases outcome <;> exact tidings_fire _ _ _ _

end

end Client

end ClientTransaction
