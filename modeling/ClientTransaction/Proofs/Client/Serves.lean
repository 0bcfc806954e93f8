import ClientTransaction.Proofs.Client.Names

/-!
# Client.Serves — a reply is for its transaction

The end of a request changes no transaction but the one that sent it, and what follows from it is
sent for that transaction too. No handle that has been resolved is touched, so whoever held a
transaction, under a name or by a handle that yields it, holds it still.
-/

namespace ClientTransaction.Client

/-- Something is done on behalf of a transaction. -/
structure Serves (owner : Nat) (s s' : Client) : Prop where
  others : ∀ tx, tx ≠ owner → s'.transactions[tx]? = s.transactions[tx]?
  yields : ∀ (place : Nat) (h : Handle Payload) (result : Except Error Payload),
    s.handles[place]? = some h → h.state = .resolved result → s'.handles[place]? = some h

namespace Serves

variable {owner : Nat} {s s₁ s₂ : Client}

theorem of_eq (ht : s₁.transactions = s.transactions) (hh : s₁.handles = s.handles) :
    Serves owner s s₁ where
  others := by
    intro _ _
    rw [ht]
  yields := by
    intro place h _ hplace _
    rw [hh, hplace]

theorem refl (s : Client) : Serves owner s s :=
  of_eq rfl rfl

theorem trans (h : Serves owner s s₁) (h' : Serves owner s₁ s₂) : Serves owner s s₂ where
  others := by
    intro tx hne
    exact (h'.others tx hne).trans (h.others tx hne)
  yields := by
    intro place hd result hplace hstate
    exact h'.yields place hd result (h.yields place hd result hplace hstate) hstate

theorem record (s : Client) (e : Event) : Serves owner s (s.record e) :=
  of_eq rfl rfl

theorem updateCursor (s : Client) (cursor : Nat) (f : Cursor → Cursor) :
    Serves owner s (s.updateCursor cursor f) :=
  of_eq rfl rfl

theorem updateTransaction (s : Client) (owner : Nat) (f : Transaction → Transaction) :
    Serves owner s (s.updateTransaction owner f) where
  others := by
    intro tx hne
    simp [hne.symm]
  yields := by
    intro _ _ _ hplace _
    exact hplace

theorem addTransaction (s : Client) (t : Transaction) :
    Serves s.transactions.length s (s.addTransaction t) where
  others := by
    intro tx hne
    rw [(s.frame_addTransaction t).1]
    rcases Nat.lt_or_gt_of_ne hne with hlt | hgt
    · exact List.getElem?_append_left hlt
    · -- There is nothing beyond the new one.
      rw [List.getElem?_eq_none (Nat.le_of_lt hgt), List.getElem?_eq_none]
      rw [List.length_append]
      exact hgt
  yields := by
    intro _ _ _ hplace _
    exact hplace

theorem addHandle (s : Client) (h : Handle Payload) : Serves owner s (s.addHandle h) where
  others := fun _ _ => rfl
  yields := by
    intro place hd _ hplace _
    rw [(s.frame_addHandle h).2.2.1,
      List.getElem?_append_left (List.getElem?_eq_some_iff.1 hplace).1, hplace]

theorem send (s : Client) (tx : Nat) (exchange : Exchange) (statement : String) (params : Params)
    (onRun onPull : Handler) :
    Serves owner s (s.send tx exchange statement params onRun onPull) :=
  of_eq rfl rfl

theorem release (s : Client) (owner : Nat) : Serves owner s (s.release owner) :=
  ((updateTransaction s owner _).trans (record _ _)).trans (record _ _)

/-- Only a handle without an outcome gets one. -/
theorem resolve (s : Client) (handle : Nat) (result : Except Error Payload) :
    Serves owner s (s.resolve handle result) := by
  unfold Client.resolve
  cases hh : s.handles[handle]? with
  | none => exact refl s
  | some hd =>
      have hset : Serves owner s
          { s with handles := s.handles.set handle (hd.resolve result) } := by
        refine ⟨fun _ _ => rfl, ?_⟩
        intro place h shown hplace hstate
        by_cases hp : handle = place
        · subst hp
          cases hh.symm.trans hplace
          have hsame : hd.resolve result = hd := by
            unfold Handle.resolve
            split
            · rename_i hpending
              rw [hstate] at hpending
              cases hpending
            · rfl
          simp [hsame, (List.getElem?_eq_some_iff.1 hh).1]
        · simpa [hp] using hplace
      dsimp only
      split
      · exact hset.trans (record _ _)
      · exact hset

theorem resolveAll (s : Client) (handles : List Nat) (result : Except Error Payload) :
    Serves owner s (s.resolveAll handles result) := by
  unfold Client.resolveAll
  induction handles generalizing s with
  | nil => exact refl s
  | cons handle rest ih => exact (resolve s handle result).trans (ih _)

theorem completeCursor (s : Client) (cursor : Nat) (outcome : Except Error Params) :
    Serves owner s (s.completeCursor cursor outcome).2 := by
  unfold Client.completeCursor
  split
  · exact refl s
  · split
    · exact refl s
    · exact (updateCursor _ _ _).trans (resolveAll _ _ _)

theorem finishCursor (s : Client) (cursor : Nat) (summary : Params) :
    Serves owner s (s.finishCursor owner cursor summary) :=
  (completeCursor s cursor (.ok summary)).trans (record _ _)

theorem failCursor (s : Client) (cursor : Nat) (e : Error) :
    Serves owner s (s.failCursor owner cursor e) := by
  have hcomplete : Serves owner s (s.completeCursor cursor (.error e)).2 :=
    completeCursor s cursor (.error e)
  unfold Client.failCursor
  split <;> rename_i heq <;> rw [heq] at hcomplete
  · exact (hcomplete.trans (record _ _)).trans (updateTransaction _ owner _)
  · exact hcomplete

theorem releaseCursor (s : Client) (requests : List Request) (cursor : Nat) :
    Serves owner s (s.releaseCursor requests cursor) := by
  unfold Client.releaseCursor
  split
  · exact refl s
  · split
    · exact refl s
    · exact (updateCursor _ _ _).trans (resolveAll _ _ _)

theorem runFinalizers (s : Client) (actions : List (Finalizer × Except Error Unit)) :
    Serves owner s (s.runFinalizers owner actions) := by
  induction actions generalizing s with
  | nil => exact refl s
  | cons action rest ih =>
      rcases action with ⟨⟨⟩, shown⟩
      exact (release s owner).trans (ih _)

theorem fire (s : Client) (done : TerminalChain) (result : Except Error Unit) :
    Serves owner s (s.fire owner done result).1 := by
  have hactions : Serves owner s (s.runFinalizers owner (done.fire result).1) :=
    runFinalizers s _
  unfold Client.fire
  dsimp only
  split
  · exact hactions.trans (resolve _ _ _)
  · exact hactions
  · exact hactions

theorem abandon (s : Client) (requests : List Request) (owner : Nat) :
    Serves owner s (s.abandon requests owner).1 := by
  have hclaim := updateTransaction s owner Transaction.claim
  unfold Client.abandon
  split
  · exact refl s
  · split
    · exact refl s
    · dsimp only
      split
      · exact hclaim.trans (release _ owner)
      · exact hclaim

theorem refuse (s : Client) (handle : Nat) (e : Error) :
    Serves owner s (s.refuse owner handle e) := by
  have hmark := updateTransaction s owner fun t => t.markFailed.claim
  unfold Client.refuse
  refine Serves.trans ?_ (resolve _ _ _)
  split
  · exact hmark
  · exact hmark.trans (release _ owner)

theorem collect (s : Client) (r : Request) : Serves owner s (s.collect r) := by
  unfold Client.collect
  split
  · exact updateCursor _ _ _
  · exact refl s

/-- A request comes to its end. -/
theorem answer (s : Client) (others : List Request) (r : Request) :
    Serves r.owner s (s.answer others r).1 := by
  have hreply : Serves r.owner s
      ((s.collect r).record (.reply r.owner r.exchange r.part r.reply)) :=
    (collect s r).trans (record _ _)
  rcases r with ⟨owner, exchange, part, handler, ⟨records, outcome⟩⟩
  cases handler with
  | ignore => exact hreply
  | columns cursor =>
      cases outcome with
      | success metadata => exact (hreply.trans (updateCursor _ _ _)).trans (releaseCursor _ _ _)
      | failure e => exact (hreply.trans (failCursor _ _ _)).trans (releaseCursor _ _ _)
      | dropped => exact hreply.trans (releaseCursor _ _ _)
  | rows cursor =>
      cases outcome with
      | success metadata => exact (hreply.trans (finishCursor _ _ _)).trans (releaseCursor _ _ _)
      | failure e => exact (hreply.trans (failCursor _ _ _)).trans (releaseCursor _ _ _)
      | dropped => exact hreply.trans (releaseCursor _ _ _)
  | bookmark =>
      cases outcome with
      | success metadata => exact hreply.trans (updateTransaction _ owner _)
      | failure e => exact hreply
      | dropped => exact hreply
  | begun handle =>
      cases outcome with
      | success metadata => exact (hreply.trans (resolve _ _ _)).trans (abandon _ _ owner)
      | failure e => exact hreply.trans (refuse _ _ _)
      | dropped => exact hreply.trans (refuse _ _ _)
  | committed done =>
      cases outcome with
      | success metadata => exact (hreply.trans (updateTransaction _ owner _)).trans (fire _ _ _)
      | failure e => exact hreply.trans (fire _ _ _)
      | dropped => exact hreply.trans (fire _ _ _)
  | rolledBack done =>
      cases outcome with
      | success metadata => exact (hreply.trans (updateTransaction _ owner _)).trans (fire _ _ _)
      | failure e => exact hreply.trans (fire _ _ _)
      | dropped => exact hreply.trans (fire _ _ _)

theorem start (s : Client) (r : Option Rollback) : Serves owner s (s.start r) := by
  cases r <;> exact of_eq rfl rfl

/-- A handle that yields a transaction is there still. -/
theorem yielding (h : Serves owner s s₁) {tx : Nat} {hd : Handle Payload} (hmem : hd ∈ s.handles)
    (hyields : hd.state = .resolved (.ok (.transaction tx))) : hd ∈ s₁.handles := by
  rcases List.mem_iff_getElem?.1 hmem with ⟨place, hplace⟩
  exact List.mem_of_getElem? (h.yields place hd _ hplace hyields)

/-- Who held another transaction holds it still. -/
theorem kept_other (h : Serves owner s s₁) {tx : Nat} (hne : tx ≠ owner) (hk : s.Kept tx) :
    s₁.Kept tx := by
  rcases hk with ⟨t, ht, hheld⟩ | ⟨hd, hmem, hyields⟩
  · exact Or.inl ⟨t, (h.others tx hne).trans ht, hheld⟩
  · exact Or.inr ⟨hd, h.yielding hmem hyields, hyields⟩

/-- Where the names have stayed, whoever held a transaction holds it still. -/
theorem kept (h : Serves owner s s₁) (hnames : s₁.names = s.names) {tx : Nat} (hk : s.Kept tx) :
    s₁.Kept tx := by
  rcases hk with ⟨t, ht, hheld⟩ | ⟨hd, hmem, hyields⟩
  · have hholdings := congrArg (fun names => names.1[tx]?) hnames
    simp only [names, List.getElem?_map, ht, Option.map_some, Option.map_eq_some_iff] at hholdings
    rcases hholdings with ⟨t', ht', heq⟩
    exact Or.inl ⟨t', ht', heq ▸ hheld⟩
  · exact Or.inr ⟨hd, h.yielding hmem hyields, hyields⟩

end Serves

end ClientTransaction.Client
