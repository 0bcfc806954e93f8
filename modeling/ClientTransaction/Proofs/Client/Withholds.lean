import ClientTransaction.Proofs.Client.Serves

/-!
# Client.Withholds — a transaction is given to nobody new

A transaction is yielded by the handle of its BEGIN and by no other: whatever else gets an outcome,
gets another one. So the end of a request of one transaction never gives another to anybody.
-/

namespace ClientTransaction

namespace Client

/-- No handle has come to yield the transaction. -/
def Withholds (tx : Nat) (s s' : Client) : Prop :=
  ∀ (place : Nat) (h : Handle Payload), s'.handles[place]? = some h →
    h.state = .resolved (.ok (.transaction tx)) → s.handles[place]? = some h

namespace Withholds

variable {tx : Nat} {s s₁ s₂ : Client}

theorem of_handles (h : s₁.handles = s.handles) : Withholds tx s s₁ :=
  fun _ _ hplace _ => h ▸ hplace

theorem refl (s : Client) : Withholds tx s s :=
  of_handles rfl

theorem trans (h : Withholds tx s s₁) (h' : Withholds tx s₁ s₂) : Withholds tx s s₂ :=
  fun place hd hplace hyields => h place hd (h' place hd hplace hyields) hyields

theorem addHandle (s : Client) {h : Handle Payload}
    (hne : h.state ≠ .resolved (.ok (.transaction tx))) : Withholds tx s (s.addHandle h) := by
  intro place hd hplace hyields
  rw [(s.frame_addHandle h).2.2.1, List.getElem?_append] at hplace
  split at hplace
  · exact hplace
  · rcases List.mem_singleton.1 (List.mem_of_getElem? hplace) with rfl
    exact absurd hyields hne

/-- A handle that ages yields nothing new. -/
theorem setHandle (s : Client) {place : Nat} {h h' : Handle Payload}
    (hh : s.handles[place]? = some h) (ha : h.Ages h') :
    Withholds tx s { s with handles := s.handles.set place h' } := by
  intro other hd hother hyields
  by_cases hp : place = other
  · subst hp
    have hlt := (List.getElem?_eq_some_iff.1 hh).1
    obtain rfl : h' = hd := by simpa [hlt] using hother
    cases ha with
    | same => exact hh
    | asked => cases hyields
    | taken => cases hyields
    | dropped => cases hyields
  · simpa [hp] using hother

theorem resolve (s : Client) (handle : Nat) {result : Except Error Payload}
    (hr : result ≠ .ok (.transaction tx)) : Withholds tx s (s.resolve handle result) := by
  intro place hd hplace hyields
  rw [handles_resolve, List.getElem?_modify] at hplace
  rcases Option.map_eq_some_iff.1 hplace with ⟨h, hh, rfl⟩
  split at hyields
  · -- Only a handle that had the outcome before can show it now.
    have hsame : h.resolve result = h := by
      unfold Handle.resolve at hyields ⊢
      split at hyields
      · exact absurd (by simpa using hyields) hr
      · rfl
    simp [hsame, hh]
  · rename_i hp
    simp [hp, hh]

theorem resolveAll (s : Client) (handles : List Nat) {result : Except Error Payload}
    (hr : result ≠ .ok (.transaction tx)) : Withholds tx s (s.resolveAll handles result) := by
  unfold Client.resolveAll
  induction handles generalizing s with
  | nil => exact refl s
  | cons handle rest ih => exact (resolve s handle hr).trans (ih _)

theorem completeCursor (s : Client) (cursor : Nat) (outcome : Except Error Params) :
    Withholds tx s (s.completeCursor cursor outcome).2 := by
  unfold Client.completeCursor
  split
  · exact refl s
  · split
    · exact refl s
    · have hupdated : Withholds tx s (s.updateCursor cursor fun c => c.complete outcome) :=
        of_handles rfl
      refine hupdated.trans (resolveAll _ _ ?_)
      -- The outcome of a statement is a summary, never a transaction.
      cases outcome <;> simp [Except.map]

theorem failCursor (s : Client) (owner cursor : Nat) (e : Error) :
    Withholds tx s (s.failCursor owner cursor e) := by
  have hcomplete : Withholds tx s (s.completeCursor cursor (.error e)).2 :=
    completeCursor s cursor (.error e)
  unfold Client.failCursor
  split <;> rename_i heq <;> rw [heq] at hcomplete
  · exact hcomplete.trans (of_handles rfl)
  · exact hcomplete

theorem releaseCursor (s : Client) (requests : List Request) (cursor : Nat) :
    Withholds tx s (s.releaseCursor requests cursor) := by
  unfold Client.releaseCursor
  split
  · exact refl s
  · split
    · exact refl s
    · exact (of_handles rfl).trans (resolveAll (s.updateCursor cursor _) _ (by simp))

theorem runFinalizers (s : Client) (owner : Nat) (actions : List (Finalizer × Except Error Unit)) :
    Withholds tx s (s.runFinalizers owner actions) := by
  induction actions generalizing s with
  | nil => exact refl s
  | cons action rest ih =>
      rcases action with ⟨⟨⟩, shown⟩
      have hreleased : Withholds tx s (s.release owner) := of_handles rfl
      exact hreleased.trans (ih _)

theorem fire (s : Client) (owner : Nat) (done : TerminalChain) (result : Except Error Unit) :
    Withholds tx s (s.fire owner done result).1 := by
  have hactions : Withholds tx s (s.runFinalizers owner (done.fire result).1) :=
    runFinalizers s owner (done.fire result).1
  unfold Client.fire
  dsimp only
  split
  · rename_i told _
    exact hactions.trans (resolve _ _ (by cases told <;> simp [Except.map]))
  · exact hactions
  · exact hactions

theorem abandon (s : Client) (requests : List Request) (owner : Nat) :
    Withholds tx s (s.abandon requests owner).1 := by
  unfold Client.abandon
  split
  · exact refl s
  · split
    · exact refl s
    · dsimp only
      split <;> exact of_handles rfl

theorem refuse (s : Client) (owner handle : Nat) (e : Error) :
    Withholds tx s (s.refuse owner handle e) := by
  unfold Client.refuse
  refine trans (of_handles ?_) (resolve _ _ (by simp))
  split <;> rfl

/-- The end of a request of another transaction does not give this one to anybody. -/
theorem answer (s : Client) (others : List Request) {r : Request} (hne : r.owner ≠ tx) :
    Withholds tx s (s.answer others r).1 := by
  have hnoted : Withholds tx s
      ((s.collect r).record (.reply r.owner r.exchange r.part r.reply)) := by
    unfold Client.collect
    split <;> exact of_handles rfl
  rcases r with ⟨owner, exchange, part, handler, ⟨records, outcome⟩⟩
  cases handler with
  | ignore => exact hnoted
  | columns cursor =>
      cases outcome with
      | success metadata => exact (hnoted.trans (of_handles rfl)).trans (releaseCursor _ _ _)
      | failure e => exact (hnoted.trans (failCursor _ _ _ _)).trans (releaseCursor _ _ _)
      | dropped => exact hnoted.trans (releaseCursor _ _ _)
  | rows cursor =>
      cases outcome with
      | success metadata =>
          exact (hnoted.trans ((completeCursor _ cursor (.ok metadata)).trans
            (of_handles rfl))).trans (releaseCursor _ _ _)
      | failure e => exact (hnoted.trans (failCursor _ _ _ _)).trans (releaseCursor _ _ _)
      | dropped => exact hnoted.trans (releaseCursor _ _ _)
  | bookmark => cases outcome <;> exact hnoted.trans (of_handles rfl)
  | begun handle =>
      cases outcome with
      | success metadata =>
          exact (hnoted.trans (resolve _ _ (by simpa using hne))).trans (abandon _ _ _)
      | failure e => exact hnoted.trans (refuse _ _ _ _)
      | dropped => exact hnoted.trans (refuse _ _ _ _)
  | committed done =>
      cases outcome with
      | success metadata => exact (hnoted.trans (of_handles rfl)).trans (fire _ _ _ _)
      | failure e => exact hnoted.trans (fire _ _ _ _)
      | dropped => exact hnoted.trans (fire _ _ _ _)
  | rolledBack done =>
      cases outcome with
      | success metadata => exact (hnoted.trans (of_handles rfl)).trans (fire _ _ _ _)
      | failure e => exact hnoted.trans (fire _ _ _ _)
      | dropped => exact hnoted.trans (fire _ _ _ _)

theorem start (s : Client) (rollback : Option Rollback) : Withholds tx s (s.start rollback) := by
  cases rollback <;> exact of_handles rfl

end Withholds

end Client

end ClientTransaction
