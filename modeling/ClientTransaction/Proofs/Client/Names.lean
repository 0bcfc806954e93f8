import ClientTransaction.Proofs.Client.Calm

/-!
# Client.Names — names are given and taken by the application

The application knows transactions, results and handles by names. Whatever replies come, and whatever
is sent because of them, every transaction keeps the names under which it is held, and so does every
result and every handle.
-/

namespace ClientTransaction

/-- A change that a view does not notice leaves what is viewed. -/
theorem map_modify_of_eq {α β : Type} (view : α → β) {f : α → α} (hf : ∀ x, view (f x) = view x)
    (xs : List α) (place : Nat) : (xs.modify place f).map view = xs.map view := by
  apply List.ext_getElem?
  intro i
  simp only [List.getElem?_map, List.getElem?_modify]
  cases xs[i]? with
  | none => rfl
  | some x =>
      by_cases hp : place = i <;> simp [hp, hf]

/-- The last one changes. -/
theorem modify_concat {α : Type} (xs : List α) (x : α) (f : α → α) :
    (xs ++ [x]).modify xs.length f = xs ++ [f x] := by
  apply List.ext_getElem?
  intro i
  rcases Nat.lt_trichotomy i xs.length with hi | rfl | hi
  · simp [List.getElem?_append_left hi, Nat.ne_of_gt hi]
  · simp
  · have hlt := Nat.succ_le_of_lt hi
    rw [List.getElem?_eq_none (by simpa using hlt), List.getElem?_eq_none (by simpa using hlt)]

/-! ## Results that get replies -/

namespace Cursor

/-- The first outcome stands. -/
def settle (outcome : Except Error Params) (c : Cursor) : Cursor :=
  if c.isComplete then c else c.complete outcome

/-- What a reply means to the cursor that it is for. -/
def receive (r : Request) (c : Cursor) : Cursor :=
  match r.handler, r.reply.outcome with
  | .columns _, .success metadata => c.setKeys (Message.fields metadata)
  | .columns _, .failure e => c.settle (.error e)
  | .rows _, .success metadata => (r.reply.records.foldl push c).settle (.ok metadata)
  | .rows _, .failure e => (r.reply.records.foldl push c).settle (.error e)
  | .rows _, .dropped => r.reply.records.foldl push c
  | _, _ => c

theorem name_settle (outcome : Except Error Params) (c : Cursor) :
    (c.settle outcome).name = c.name := by
  unfold settle
  split <;> rfl

theorem name_pushAll (rows : List (List Value)) (c : Cursor) :
    (rows.foldl push c).name = c.name := by
  induction rows generalizing c with
  | nil => rfl
  | cons row rest ih => exact ih (c.push row)

theorem outcome_pushAll (rows : List (List Value)) (c : Cursor) :
    (rows.foldl push c).outcome = c.outcome := by
  induction rows generalizing c with
  | nil => rfl
  | cons row rest ih => exact ih (c.push row)

end Cursor

theorem Handle.name_resolve {α : Type} (h : Handle α) (result : Except Error α) :
    (h.resolve result).name = h.name := by
  unfold Handle.resolve
  split <;> rfl

namespace Client

/-- The names of all transactions, results and handles. -/
def names (s : Client) : List (List Holding) × List (Option String) × List (Option String) :=
  (s.transactions.map Transaction.holdings, s.cursors.map Cursor.name, s.handles.map Handle.name)

section

variable (s : Client)

theorem names_updateTransaction (tx : Nat) {f : Transaction → Transaction}
    (hf : ∀ t : Transaction, (f t).holdings = t.holdings) :
    (s.updateTransaction tx f).names = s.names := by
  unfold names
  rw [(s.frame_updateTransaction tx f).1, map_modify_of_eq _ hf]
  rfl

theorem names_updateCursor (cursor : Nat) {f : Cursor → Cursor}
    (hf : ∀ c : Cursor, (f c).name = c.name) : (s.updateCursor cursor f).names = s.names := by
  unfold names
  rw [(s.frame_updateCursor cursor f).2.1, map_modify_of_eq _ hf]
  rfl

theorem names_release (tx : Nat) : (s.release tx).names = s.names :=
  s.names_updateTransaction tx fun _ => rfl

theorem names_setHandle {handle : Nat} {h h' : Handle Payload} (hh : s.handles[handle]? = some h)
    (hn : h'.name = h.name) :
    ({ s with handles := s.handles.set handle h' } : Client).names = s.names := by
  have hset : (s.handles.set handle h').map Handle.name = s.handles.map Handle.name := by
    apply List.ext_getElem?
    intro i
    by_cases hi : handle = i
    · subst hi
      rw [List.getElem?_map, List.getElem?_set_self (List.getElem?_eq_some_iff.1 hh).1]
      simp [hh, hn]
    · simp [List.getElem?_set_ne hi]
  simp [names, hset]

theorem names_resolve (handle : Nat) (result : Except Error Payload) :
    (s.resolve handle result).names = s.names := by
  unfold resolve
  cases hh : s.handles[handle]? with
  | none => rfl
  | some h =>
      have hset := s.names_setHandle hh (h.name_resolve result)
      dsimp only
      split <;> exact hset

theorem names_resolveAll (handles : List Nat) (result : Except Error Payload) :
    (s.resolveAll handles result).names = s.names := by
  unfold resolveAll
  induction handles generalizing s with
  | nil => rfl
  | cons handle rest ih => exact (ih _).trans (s.names_resolve handle result)

theorem names_completeCursor (cursor : Nat) (outcome : Except Error Params) :
    (s.completeCursor cursor outcome).2.names = s.names := by
  unfold completeCursor
  split
  · rfl
  · split
    · rfl
    · exact (names_resolveAll _ _ _).trans (s.names_updateCursor cursor fun _ => rfl)

theorem names_failCursor (tx cursor : Nat) (e : Error) :
    (s.failCursor tx cursor e).names = s.names := by
  have hcomplete := s.names_completeCursor cursor (.error e)
  unfold failCursor
  split <;> rename_i heq <;> rw [heq] at hcomplete
  · exact (names_updateTransaction _ tx (Calm.holdings_resultFailed e)).trans hcomplete
  · exact hcomplete

theorem names_releaseCursor (requests : List Request) (cursor : Nat) :
    (s.releaseCursor requests cursor).names = s.names := by
  unfold releaseCursor
  split
  · rfl
  · split
    · rfl
    · exact (names_resolveAll _ _ _).trans (s.names_updateCursor cursor fun _ => rfl)

theorem names_runFinalizers (tx : Nat) (actions : List (Finalizer × Except Error Unit)) :
    (s.runFinalizers tx actions).names = s.names := by
  induction actions generalizing s with
  | nil => rfl
  | cons action rest ih =>
      rcases action with ⟨⟨⟩, shown⟩
      exact (ih _).trans (s.names_release tx)

theorem names_fire (tx : Nat) (done : TerminalChain) (result : Except Error Unit) :
    (s.fire tx done result).1.names = s.names := by
  have hactions := s.names_runFinalizers tx (done.fire result).1
  unfold fire
  dsimp only
  split
  · exact (names_resolve _ _ _).trans hactions
  · exact hactions
  · exact hactions

theorem names_abandon (requests : List Request) (tx : Nat) :
    (s.abandon requests tx).1.names = s.names := by
  have hclaim : (s.updateTransaction tx Transaction.claim).names = s.names :=
    s.names_updateTransaction tx fun _ => rfl
  unfold abandon
  split
  · rfl
  · split
    · rfl
    · dsimp only
      split
      · exact (names_release _ tx).trans hclaim
      · exact hclaim

theorem names_refuse (tx handle : Nat) (e : Error) : (s.refuse tx handle e).names = s.names := by
  have hmark : (s.updateTransaction tx fun t => t.markFailed.claim).names = s.names :=
    s.names_updateTransaction tx fun _ => rfl
  unfold refuse
  refine (names_resolve _ _ _).trans ?_
  split
  · exact hmark
  · exact (names_release _ tx).trans hmark

theorem names_collect (r : Request) : (s.collect r).names = s.names := by
  unfold collect
  split
  · exact s.names_updateCursor _ (Cursor.name_pushAll _)
  · rfl

theorem names_answer (others : List Request) (r : Request) :
    (s.answer others r).1.names = s.names := by
  have hreply : ((s.collect r).record (.reply r.owner r.exchange r.part r.reply)).names = s.names :=
    s.names_collect r
  rcases r with ⟨owner, exchange, part, handler, ⟨records, outcome⟩⟩
  cases handler with
  | ignore => exact hreply
  | columns cursor =>
      cases outcome with
      | success metadata =>
          refine (names_releaseCursor _ _ _).trans (Eq.trans (names_updateCursor _ cursor ?_) hreply)
          exact fun _ => rfl
      | failure e =>
          exact (names_releaseCursor _ _ _).trans ((names_failCursor _ _ _ _).trans hreply)
      | dropped => exact (names_releaseCursor _ _ _).trans hreply
  | rows cursor =>
      cases outcome with
      | success metadata =>
          exact (names_releaseCursor _ _ _).trans ((names_completeCursor _ _ _).trans hreply)
      | failure e =>
          exact (names_releaseCursor _ _ _).trans ((names_failCursor _ _ _ _).trans hreply)
      | dropped => exact (names_releaseCursor _ _ _).trans hreply
  | bookmark =>
      cases outcome with
      | success metadata =>
          exact (names_updateTransaction _ owner (Calm.holdings_setBookmark _)).trans hreply
      | failure e => exact hreply
      | dropped => exact hreply
  | begun handle =>
      cases outcome with
      | success metadata =>
          exact (names_abandon _ _ _).trans ((names_resolve _ _ _).trans hreply)
      | failure e => exact (names_refuse _ _ _ _).trans hreply
      | dropped => exact (names_refuse _ _ _ _).trans hreply
  | committed done =>
      cases outcome with
      | success metadata =>
          refine (names_fire _ _ _ _).trans ((names_updateTransaction _ owner ?_).trans hreply)
          exact Calm.holdings_setBookmark _
      | failure e => exact (names_fire _ _ _ _).trans hreply
      | dropped => exact (names_fire _ _ _ _).trans hreply
  | rolledBack done =>
      cases outcome with
      | success metadata =>
          refine (names_fire _ _ _ _).trans (Eq.trans (names_updateTransaction _ owner ?_) hreply)
          exact fun _ => rfl
      | failure e => exact (names_fire _ _ _ _).trans hreply
      | dropped => exact (names_fire _ _ _ _).trans hreply

/-! ## Delivery -/

theorem names_start (r : Option Rollback) : (s.start r).names = s.names := by
  cases r <;> rfl

theorem names_next? {s s' : Client} {r : Request} (h : s.next? = some (r, s')) :
    s'.names = s.names := by
  unfold next? at h
  split at h
  · cases h
  · cases h
    rfl

theorem names_drainUpTo (count : Nat) : (drainUpTo count s).names = s.names := by
  induction count generalizing s with
  | zero => rfl
  | succ count ih =>
      unfold drainUpTo
      split
      · rfl
      · rename_i r s' hnext
        exact (ih _).trans ((names_start _ _).trans ((names_answer _ _ _).trans (names_next? hnext)))

theorem names_drain : s.drain.names = s.names :=
  s.names_drainUpTo _

theorem names_settle : s.settle.names = s.names := by
  unfold settle
  split
  · rfl
  · exact s.names_drain

theorem names_follow (answered : Client × Option Rollback) :
    (follow answered).names = answered.1.names := by
  rcases answered with ⟨s, rollback⟩
  cases rollback with
  | none => rfl
  | some r => exact (names_settle _).trans (s.names_start (some r))

theorem names_deliverUpTo (count : Nat) (first : Option Error) :
    (deliverUpTo count first s).2.names = s.names := by
  induction count generalizing first s with
  | zero => rfl
  | succ count ih =>
      unfold deliverUpTo
      split
      · rfl
      · rename_i r s' hnext
        exact (ih _ _).trans
          ((names_follow _).trans ((names_answer _ _ _).trans (names_next? hnext)))

theorem names_deliver (limit : Option Nat) : (s.deliver limit).2.names = s.names :=
  s.names_deliverUpTo _ none

theorem names_giveUp (requests : List Request) : (giveUp requests s).names = s.names := by
  induction requests generalizing s with
  | nil => rfl
  | cons r rest ih =>
      unfold giveUp
      exact (ih _).trans ((names_follow _).trans (names_answer _ _ _))

theorem names_dropQueue : s.dropQueue.names = s.names :=
  names_giveUp _ _

end

end Client

end ClientTransaction
