import ClientTransaction.Client.Delivery
import ClientTransaction.Proofs.Transaction.Growth

/-!
# Client.Growth — a client only grows

Nothing that a client knows is taken back. Its history is only added to, its transactions keep their
places and grow, a resolved handle stays resolved, and a handle that was let go stays so. Every
operation has this property, whether its caller waits or not.
-/

namespace ClientTransaction

namespace Handle

variable {α : Type}

structure Grows (h h' : Handle α) : Prop where
  resolved : h.isResolved = true → h'.isResolved = true
  held : h'.isHeld = true → h.isHeld = true

theorem Grows.refl (h : Handle α) : h.Grows h :=
  ⟨id, id⟩

theorem Grows.trans {h₁ h₂ h₃ : Handle α} (h : h₁.Grows h₂) (h' : h₂.Grows h₃) : h₁.Grows h₃ :=
  ⟨fun r => h'.resolved (h.resolved r), fun r => h.held (h'.held r)⟩

theorem grows_resolve (h : Handle α) (result : Except Error α) : h.Grows (h.resolve result) := by
  rcases h with ⟨name, state⟩
  cases name <;> cases state <;> exact ⟨fun r => by simp_all [isResolved, resolve], id⟩

theorem grows_drop (h : Handle α) : h.Grows h.drop :=
  ⟨fun _ => rfl, fun held => by simp [drop, isHeld] at held⟩

theorem grows_take (h : Handle α) : h.Grows h.take.2 := by
  rcases h with ⟨name, state⟩
  cases state with
  | pending watched => exact Grows.refl _
  | resolved result => exact ⟨fun _ => rfl, id⟩
  | spent => exact Grows.refl _

theorem grows_poll (h : Handle α) : h.Grows h.poll.2 := by
  rcases h with ⟨name, state⟩
  cases state with
  | pending watched => exact ⟨fun r => by simp [isResolved] at r, id⟩
  | resolved result => exact grows_drop _
  | spent => exact grows_drop _

end Handle

namespace Client

structure Grows (s s' : Client) : Prop where
  history : s.history <+: s'.history
  transactions : ∀ (tx : Nat) (t : Transaction), s.transactions[tx]? = some t →
    ∃ t' : Transaction, s'.transactions[tx]? = some t' ∧ t.Grows t'
  handles : ∀ (place : Nat) (h : Handle Payload), s.handles[place]? = some h →
    ∃ h' : Handle Payload, s'.handles[place]? = some h' ∧ h.Grows h'

namespace Grows

theorem refl (s : Client) : s.Grows s where
  history := List.prefix_refl _
  transactions := by
    intro _ t h
    exact ⟨t, h, .refl t⟩
  handles := by
    intro _ h hh
    exact ⟨h, hh, .refl h⟩

theorem trans {s₁ s₂ s₃ : Client} (h₁ : s₁.Grows s₂) (h₂ : s₂.Grows s₃) : s₁.Grows s₃ where
  history := h₁.history.trans h₂.history
  transactions := by
    intro tx t ht
    rcases h₁.transactions tx t ht with ⟨t', ht', hg⟩
    rcases h₂.transactions tx t' ht' with ⟨t'', ht'', hg'⟩
    exact ⟨t'', ht'', hg.trans hg'⟩
  handles := by
    intro place h hh
    rcases h₁.handles place h hh with ⟨h', hh', hg⟩
    rcases h₂.handles place h' hh' with ⟨h'', hh'', hg'⟩
    exact ⟨h'', hh'', hg.trans hg'⟩

end Grows

/-! ## Single changes -/

theorem grows_record (s : Client) (e : Event) : s.Grows (s.record e) :=
  { Grows.refl s with history := ⟨[e], rfl⟩ }

theorem grows_updateTransaction (s : Client) (tx : Nat) {f : Transaction → Transaction}
    (hf : ∀ t : Transaction, t.Grows (f t)) : s.Grows (s.updateTransaction tx f) := by
  refine { Grows.refl s with transactions := ?_ }
  intro place t ht
  by_cases hp : tx = place
  · exact ⟨f t, by simp [updateTransaction, hp, ht], hf t⟩
  · exact ⟨t, by simp [updateTransaction, hp, ht], .refl t⟩

theorem grows_updateCursor (s : Client) (cursor : Nat) (f : Cursor → Cursor) :
    s.Grows (s.updateCursor cursor f) :=
  { Grows.refl s with }

theorem grows_updateConnection (s : Client) (f : Connection → Connection) :
    s.Grows (s.updateConnection f) :=
  { Grows.refl s with }

theorem grows_addTransaction (s : Client) (t : Transaction) : s.Grows (s.addTransaction t) := by
  refine { Grows.refl s with transactions := ?_ }
  intro place t' ht
  exact ⟨t', List.getElem?_append_left (List.getElem?_eq_some_iff.1 ht).1 ▸ ht, .refl t'⟩

theorem grows_addCursor (s : Client) (c : Cursor) : s.Grows (s.addCursor c) :=
  { Grows.refl s with }

theorem grows_addHandle (s : Client) (h : Handle Payload) : s.Grows (s.addHandle h) := by
  refine { Grows.refl s with handles := ?_ }
  intro place h' hh
  exact ⟨h', List.getElem?_append_left (List.getElem?_eq_some_iff.1 hh).1 ▸ hh, .refl h'⟩

theorem grows_setHandle (s : Client) {place : Nat} {h h' : Handle Payload}
    (hh : s.handles[place]? = some h) (hg : h.Grows h') :
    s.Grows { s with handles := s.handles.set place h' } := by
  refine { Grows.refl s with handles := ?_ }
  intro other g hother
  by_cases hp : place = other
  · subst hp
    rw [hh] at hother
    cases hother
    have hlt : place < s.handles.length := (List.getElem?_eq_some_iff.1 hh).1
    exact ⟨h', by simp [hlt], hg⟩
  · exact ⟨g, by simpa [List.getElem?_set, hp] using hother, .refl g⟩

/-! ## Operations of the client -/

theorem grows_send (s : Client) (tx : Nat) (exchange : Exchange) (statement : String)
    (params : Params) (onRun onPull : Handler) :
    s.Grows (s.send tx exchange statement params onRun onPull) := by
  unfold send
  exact ((grows_record _ _).trans (grows_updateConnection _ _)).trans
    ((grows_record _ _).trans (grows_updateConnection _ _))

theorem grows_release (s : Client) (tx : Nat) : s.Grows (s.release tx) :=
  ((grows_updateTransaction s tx (Transaction.grows_finalize .rolledBack rfl)).trans
    (grows_record _ _)).trans (grows_record _ _)

theorem grows_resolve (s : Client) (handle : Nat) (result : Except Error Payload) :
    s.Grows (s.resolve handle result) := by
  unfold resolve
  split
  · exact Grows.refl s
  · rename_i h hh
    have hset := s.grows_setHandle hh (h.grows_resolve result)
    dsimp only
    split
    · exact hset.trans (grows_record _ _)
    · exact hset

theorem grows_resolveAll (s : Client) (handles : List Nat) (result : Except Error Payload) :
    s.Grows (s.resolveAll handles result) := by
  unfold resolveAll
  induction handles generalizing s with
  | nil => exact Grows.refl s
  | cons handle rest ih => exact (s.grows_resolve handle result).trans (ih _)

theorem grows_completeCursor (s : Client) (cursor : Nat) (outcome : Except Error Params) :
    s.Grows (s.completeCursor cursor outcome).2 := by
  unfold completeCursor
  split
  · exact Grows.refl s
  · split
    · exact Grows.refl s
    · exact (grows_updateCursor _ _ _).trans (grows_resolveAll _ _ _)

theorem grows_finishCursor (s : Client) (tx cursor : Nat) (summary : Params) :
    s.Grows (s.finishCursor tx cursor summary) :=
  (s.grows_completeCursor cursor (.ok summary)).trans (grows_record _ _)

theorem grows_failCursor (s : Client) (tx cursor : Nat) (e : Error) :
    s.Grows (s.failCursor tx cursor e) := by
  have hc := s.grows_completeCursor cursor (.error e)
  unfold failCursor
  split <;> rename_i s' heq <;> rw [heq] at hc
  · exact (hc.trans (grows_record _ _)).trans
      (grows_updateTransaction _ _ (Transaction.grows_resultFailed e))
  · exact hc

theorem grows_releaseCursor (s : Client) (requests : List Request) (cursor : Nat) :
    s.Grows (s.releaseCursor requests cursor) := by
  unfold releaseCursor
  split
  · exact Grows.refl s
  · split
    · exact Grows.refl s
    · exact (grows_updateCursor _ _ _).trans (grows_resolveAll _ _ _)

theorem grows_dropCursor (s : Client) (cursor : Nat) : s.Grows (s.dropCursor cursor) :=
  (grows_updateCursor _ _ _).trans (grows_releaseCursor _ _ _)

/-! ## Handlers -/

theorem grows_runFinalizers (s : Client) (tx : Nat)
    (actions : List (Finalizer × Except Error Unit)) : s.Grows (s.runFinalizers tx actions) := by
  induction actions generalizing s with
  | nil => exact Grows.refl s
  | cons action rest ih =>
      rcases action with ⟨⟨⟩, shown⟩
      exact (s.grows_release tx).trans (ih _)

theorem grows_fire (s : Client) (tx : Nat) (done : TerminalChain) (result : Except Error Unit) :
    s.Grows (s.fire tx done result).1 := by
  unfold fire
  have hf := s.grows_runFinalizers tx (done.fire result).1
  dsimp only
  split
  · exact hf.trans (grows_resolve _ _ _)
  · exact hf
  · exact hf

theorem grows_abandon (s : Client) (requests : List Request) (tx : Nat) :
    s.Grows (s.abandon requests tx).1 := by
  unfold abandon
  split
  · exact Grows.refl s
  · split
    · exact Grows.refl s
    · have hc := s.grows_updateTransaction tx Transaction.grows_claim
      dsimp only
      split
      · exact hc.trans (grows_release _ _)
      · exact hc

theorem grows_acknowledge (s : Client) (requests : List Request) (tx handle : Nat) :
    s.Grows (s.acknowledge requests tx handle).1 :=
  (s.grows_resolve handle _).trans (grows_abandon _ _ _)

theorem grows_refuse (s : Client) (tx handle : Nat) (e : Error) :
    s.Grows (s.refuse tx handle e) := by
  have hm : s.Grows (s.updateTransaction tx fun t => t.markFailed.claim) :=
    s.grows_updateTransaction tx fun t : Transaction =>
      t.grows_markFailed.trans (Transaction.grows_claim _)
  unfold refuse
  dsimp only
  split
  · exact hm.trans (grows_resolve _ _ _)
  · exact (hm.trans (grows_release _ _)).trans (grows_resolve _ _ _)

theorem grows_answer (s : Client) (others : List Request) (r : Request) :
    s.Grows (s.answer others r).1 := by
  have hrows : s.Grows (s.collect r) := by
    unfold collect
    split
    · exact grows_updateCursor _ _ _
    · exact Grows.refl s
  have hreply := hrows.trans (grows_record _ (.reply r.owner r.exchange r.part r.reply))
  rcases r with ⟨owner, exchange, part, handler, ⟨records, outcome⟩⟩
  cases handler with
  | ignore => exact hreply
  | columns cursor =>
      cases outcome with
      | success metadata =>
          exact (hreply.trans (grows_updateCursor _ _ _)).trans (grows_releaseCursor _ _ _)
      | failure e => exact (hreply.trans (grows_failCursor _ _ _ _)).trans (grows_releaseCursor _ _ _)
      | dropped => exact hreply.trans (grows_releaseCursor _ _ _)
  | rows cursor =>
      cases outcome with
      | success metadata =>
          exact (hreply.trans (grows_finishCursor _ _ _ _)).trans (grows_releaseCursor _ _ _)
      | failure e => exact (hreply.trans (grows_failCursor _ _ _ _)).trans (grows_releaseCursor _ _ _)
      | dropped => exact hreply.trans (grows_releaseCursor _ _ _)
  | bookmark =>
      cases outcome with
      | success metadata =>
          exact hreply.trans (grows_updateTransaction _ _ (Transaction.grows_setBookmark _))
      | failure e => exact hreply
      | dropped => exact hreply
  | begun handle =>
      cases outcome with
      | success metadata => exact hreply.trans (grows_acknowledge _ _ _ _)
      | failure e => exact hreply.trans (grows_refuse _ _ _ _)
      | dropped => exact hreply.trans (grows_refuse _ _ _ _)
  | committed done =>
      cases outcome with
      | success metadata =>
          refine (hreply.trans (grows_updateTransaction _ _ ?_)).trans (grows_fire _ _ _ _)
          intro t
          exact (Transaction.grows_setBookmark _ t).trans
            (Transaction.grows_finalize .committed rfl _)
      | failure e => exact hreply.trans (grows_fire _ _ _ _)
      | dropped => exact hreply.trans (grows_fire _ _ _ _)
  | rolledBack done =>
      cases outcome with
      | success metadata =>
          refine (hreply.trans (grows_updateTransaction _ _ ?_)).trans (grows_fire _ _ _ _)
          exact Transaction.grows_finalize .rolledBack rfl
      | failure e => exact hreply.trans (grows_fire _ _ _ _)
      | dropped => exact hreply.trans (grows_fire _ _ _ _)

/-! ## Delivery -/

theorem grows_startRollback (s : Client) (r : Rollback) : s.Grows (s.startRollback r) :=
  (grows_send _ _ _ _ _ _ _).trans (grows_record _ _)

theorem grows_start (s : Client) (r : Option Rollback) : s.Grows (s.start r) := by
  cases r with
  | none => exact Grows.refl s
  | some r => exact s.grows_startRollback r

theorem grows_next? {s s' : Client} {r : Request} (h : s.next? = some (r, s')) : s.Grows s' := by
  unfold next? at h
  split at h
  · cases h
  · cases h
    exact grows_updateConnection _ _

theorem grows_drainUpTo (count : Nat) (s : Client) : s.Grows (drainUpTo count s) := by
  induction count generalizing s with
  | zero => exact Grows.refl s
  | succ count ih =>
      unfold drainUpTo
      split
      · exact Grows.refl s
      · rename_i r s' hnext
        exact ((grows_next? hnext).trans (grows_answer s' _ r)).trans
          ((grows_start _ _).trans (ih _))

theorem grows_settle (s : Client) : s.Grows s.settle := by
  unfold settle
  split
  · exact Grows.refl s
  · exact grows_drainUpTo _ s

theorem grows_follow (s : Client) (r : Option Rollback) : s.Grows (follow (s, r)) := by
  cases r with
  | none => exact Grows.refl s
  | some r => exact (s.grows_startRollback r).trans (grows_settle _)

theorem grows_flush (s : Client) (tx : Nat) : s.Grows (s.flush tx) :=
  (s.grows_record _).trans (grows_settle _)

theorem grows_deliverUpTo (count : Nat) (first : Option Error) (s : Client) :
    s.Grows (deliverUpTo count first s).2 := by
  induction count generalizing first s with
  | zero => exact Grows.refl s
  | succ count ih =>
      unfold deliverUpTo
      split
      · exact Grows.refl s
      · rename_i r s' hnext
        exact ((grows_next? hnext).trans (grows_answer s' _ r)).trans
          ((grows_follow _ _).trans (ih _ _))

theorem grows_deliver (s : Client) (limit : Option Nat) : s.Grows (s.deliver limit).2 :=
  grows_deliverUpTo _ _ s

theorem grows_giveUp (requests : List Request) (s : Client) : s.Grows (giveUp requests s) := by
  induction requests generalizing s with
  | nil => exact Grows.refl s
  | cons r rest ih =>
      unfold giveUp
      exact (s.grows_answer _ _).trans ((grows_follow _ _).trans (ih _))

theorem grows_dropQueue (s : Client) : s.Grows s.dropQueue :=
  (s.grows_updateConnection _).trans (grows_giveUp _ _)

end Client

end ClientTransaction
