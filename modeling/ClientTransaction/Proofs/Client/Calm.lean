import ClientTransaction.Proofs.Client.Views

/-!
# Client.Calm — what is of no consequence for how a transaction stands

Marks and bookmarks, results that come in, callers that are woken, and outcomes that are asked for
change neither the claim of a transaction nor how it ended, and give it to nobody who had it not.
They send nothing, they resolve only the handles of those who wait for a result, and what they add
to the history only tells someone of something. The replies to statements, to RUNs, and to the
PULL_ALLs of a caller that waits are of this kind.
-/

namespace ClientTransaction

/-! ## Handles that no outcome reaches -/

/-- What becomes of a handle while no outcome arrives: it is asked, or let go. -/
inductive Handle.Ages {α : Type} : Handle α → Handle α → Prop
  | same (h : Handle α) : Ages h h
  | asked (name : Option String) (watched watched' : Bool) :
      Ages ⟨name, .pending watched⟩ ⟨name, .pending watched'⟩
  | taken (name : Option String) (result : Except Error α) :
      Ages ⟨name, .resolved result⟩ ⟨name, .spent⟩
  | dropped (h : Handle α) : Ages h h.drop

namespace Handle

variable {α : Type}

theorem Ages.trans {h₁ h₂ h₃ : Handle α} (h : h₁.Ages h₂) (h' : h₂.Ages h₃) : h₁.Ages h₃ := by
  cases h with
  | same => exact h'
  | asked name watched watched' =>
      cases h' with
      | same => exact .asked name watched watched'
      | asked _ _ watched'' => exact .asked name watched watched''
      | dropped => exact .dropped _
  | taken name result =>
      cases h' with
      | same => exact .taken name result
      | dropped => exact .dropped _
  | dropped =>
      cases h' with
      | same => exact .dropped _
      | dropped => exact .dropped _

theorem ages_take (h : Handle α) : h.Ages h.take.2 := by
  rcases h with ⟨name, state⟩
  cases state with
  | pending watched => exact .same _
  | resolved result => exact .taken name result
  | spent => exact .same _

theorem ages_poll (h : Handle α) : h.Ages h.poll.2 := by
  rcases h with ⟨name, state⟩
  cases state with
  | pending watched => exact .asked name watched true
  | resolved result => exact .dropped _
  | spent => exact .dropped _

/-- A handle that ages yields nothing new. -/
theorem Ages.resolved {h h' : Handle α} (ha : h.Ages h') {result : Except Error α}
    (hr : h'.state = .resolved result) : h.state = .resolved result := by
  cases ha with
  | same => exact hr
  | asked => simp at hr
  | taken => simp at hr
  | dropped => simp [drop] at hr

end Handle

namespace Client

/-- Someone who waits for a result waits for the handle. -/
def Awaited (s : Client) (handle : Nat) : Prop :=
  ∃ c ∈ s.cursors, handle ∈ c.waiters

/-- The application holds the transaction, or has a handle that yields it. -/
def Kept (s : Client) (tx : Nat) : Prop :=
  (∃ t : Transaction, s.transactions[tx]? = some t ∧ t.holdings ≠ []) ∨
    ∃ h ∈ s.handles, h.state = .resolved (.ok (.transaction tx))

/-- The event only tells someone of something. -/
def Aside (s : Client) : Event → Prop
  | .fetched .. | .statementFailed .. => True
  | .wake handle _ => s.Awaited handle
  | _ => False

/-! ## Calm changes -/

structure Calm (s s' : Client) : Prop where
  footing? : ∀ tx, s'.footing? tx = s.footing? tx
  kept : ∀ tx, s'.Kept tx → s.Kept tx
  connection : s'.connection = s.connection
  history : ∃ asides, s'.history = s.history ++ asides ∧ ∀ e ∈ asides, s.Aside e
  awaited : ∀ handle, s'.Awaited handle → s.Awaited handle
  size : s'.handles.length = s.handles.length
  handles : ∀ (handle : Nat) (h : Handle Payload), ¬ s.Awaited handle →
    s.handles[handle]? = some h → ∃ h' : Handle Payload, s'.handles[handle]? = some h' ∧ h.Ages h'

namespace Calm

theorem refl (s : Client) : s.Calm s where
  footing? := fun _ => rfl
  kept := fun _ => id
  connection := rfl
  history := ⟨[], by simp, by simp⟩
  awaited := fun _ => id
  size := rfl
  handles := by
    intro _ h _ hh
    exact ⟨h, hh, .same h⟩

theorem aside_mono {s s' : Client} (h : s.Calm s') {e : Event} (he : s'.Aside e) : s.Aside e := by
  cases e with
  | fetched | statementFailed => exact he
  | wake handle name => exact h.awaited handle he
  | _ => exact he.elim

theorem trans {s₁ s₂ s₃ : Client} (h : s₁.Calm s₂) (h' : s₂.Calm s₃) : s₁.Calm s₃ where
  footing? := by
    intro tx
    exact (h'.footing? tx).trans (h.footing? tx)
  kept := by
    intro tx hk
    exact h.kept tx (h'.kept tx hk)
  connection := h'.connection.trans h.connection
  history := by
    rcases h.history with ⟨asides, heq, hall⟩
    rcases h'.history with ⟨asides', heq', hall'⟩
    refine ⟨asides ++ asides', by rw [heq', heq, List.append_assoc], ?_⟩
    intro e he
    rcases List.mem_append.1 he with he | he
    · exact hall e he
    · exact h.aside_mono (hall' e he)
  awaited := by
    intro handle hw
    exact h.awaited handle (h'.awaited handle hw)
  size := h'.size.trans h.size
  handles := by
    intro handle hd hw hh
    -- A handle that nobody waits for at first is waited for by nobody later.
    rcases h.handles handle hd hw hh with ⟨hd', hh', ha⟩
    rcases h'.handles handle hd' (fun hw' => hw (h.awaited handle hw')) hh' with ⟨hd'', hh'', ha'⟩
    exact ⟨hd'', hh'', ha.trans ha'⟩

theorem record (s : Client) {e : Event} (h : s.Aside e) : s.Calm (s.record e) :=
  { refl s with history := ⟨[e], rfl, by simpa using h⟩ }

/-! ### Transactions -/

/-- A change that moves no footing and gives the transaction to nobody new. -/
theorem updateTransaction (s : Client) (tx : Nat) {f : Transaction → Transaction}
    (hf : ∀ t : Transaction, (f t).footing = t.footing)
    (hk : ∀ t : Transaction, s.transactions[tx]? = some t → (f t).holdings ≠ [] → s.Kept tx) :
    s.Calm (s.updateTransaction tx f) := by
  refine { refl s with footing? := s.footing?_updateTransaction_of_eq hf tx, kept := ?_ }
  rintro place (⟨t', ht', hheld⟩ | hyields)
  · by_cases hp : tx = place
    · subst hp
      simp only [frame_updateTransaction, List.getElem?_modify_eq, Option.map_eq_map,
        Option.map_eq_some_iff] at ht'
      rcases ht' with ⟨t, ht, rfl⟩
      exact hk t ht hheld
    · refine Or.inl ⟨t', ?_, hheld⟩
      simpa [hp] using ht'
  · exact Or.inr hyields

/-- A change that leaves footings and holdings alone. -/
theorem mark (s : Client) (tx : Nat) {f : Transaction → Transaction}
    (hf : ∀ t : Transaction, (f t).footing = t.footing)
    (hh : ∀ t : Transaction, (f t).holdings = t.holdings) : s.Calm (s.updateTransaction tx f) :=
  updateTransaction s tx hf fun t ht hheld => Or.inl ⟨t, ht, by rwa [hh t] at hheld⟩

/-- One more name for a transaction that is in somebody's hands. -/
theorem hold {s : Client} {tx : Nat} (h : s.Kept tx) (name : String) (own : Bool) :
    s.Calm (s.updateTransaction tx (Transaction.hold name own)) :=
  updateTransaction s tx (Transaction.footing_hold name own) fun _ _ _ => h

theorem letGo (s : Client) (tx : Nat) (name : String) :
    s.Calm (s.updateTransaction tx (Transaction.letGo name)) := by
  apply updateTransaction s tx (Transaction.footing_letGo name)
  intro t ht hheld
  -- Whoever holds it afterwards held it before.
  refine Or.inl ⟨t, ht, ?_⟩
  intro hnone
  apply hheld
  simp [Transaction.letGo, hnone]

theorem holdings_resultFailed (e : Error) (t : Transaction) :
    (t.resultFailed e).holdings = t.holdings := by
  unfold Transaction.resultFailed
  split <;> rfl

theorem holdings_setBookmark (b : Bookmark) (t : Transaction) :
    (t.setBookmark b).holdings = t.holdings := by
  unfold Transaction.setBookmark
  split <;> rfl

/-! ### Cursors -/

/-- A cursor changes, and no caller is added to those who wait for it. -/
theorem updateCursor (s : Client) (cursor : Nat) {f : Cursor → Cursor}
    (hf : ∀ (c : Cursor) (handle : Nat), handle ∈ (f c).waiters → handle ∈ c.waiters) :
    s.Calm (s.updateCursor cursor f) := by
  refine { refl s with awaited := ?_ }
  rintro handle ⟨c', hc', hw⟩
  rcases List.mem_iff_getElem?.1 hc' with ⟨place, hplace⟩
  simp only [frame_updateCursor, List.getElem?_modify, Option.map_eq_map,
    Option.map_eq_some_iff] at hplace
  rcases hplace with ⟨c, hc, rfl⟩
  refine ⟨c, List.mem_of_getElem? hc, ?_⟩
  split at hw
  · exact hf c handle hw
  · exact hw

theorem addCursor (s : Client) {c : Cursor} (hc : c.waiters = []) : s.Calm (s.addCursor c) := by
  refine { refl s with awaited := ?_ }
  rintro handle ⟨c', hc', hw⟩
  rcases List.mem_append.1 hc' with hc' | hc'
  · exact ⟨c', hc', hw⟩
  · simp [List.mem_singleton.1 hc', hc] at hw

/-! ### Handles -/

/-- A handle is replaced by what it has become. -/
theorem setHandle (s : Client) {place : Nat} {h h' : Handle Payload}
    (hh : s.handles[place]? = some h) (ha : h.Ages h') :
    s.Calm { s with handles := s.handles.set place h' } := by
  refine { refl s with kept := ?_, size := by simp, handles := ?_ }
  · rintro tx (hheld | ⟨other, hmem, hyields⟩)
    · exact Or.inl hheld
    · rcases List.mem_or_eq_of_mem_set hmem with hmem | rfl
      · exact Or.inr ⟨other, hmem, hyields⟩
      · exact Or.inr ⟨h, List.mem_of_getElem? hh, ha.resolved hyields⟩
  · intro handle hd _ hhd
    by_cases hp : place = handle
    · subst hp
      rw [hh] at hhd
      cases hhd
      exact ⟨h', by simp [List.getElem?_eq_some_iff.1 hh |>.1], ha⟩
    · exact ⟨hd, by simpa [hp] using hhd, .same hd⟩

/-- A handle that someone waits for with a result is resolved, but not with a transaction. -/
theorem resolve {s s₁ : Client} (h : s.Calm s₁) {handle : Nat} (hw : s.Awaited handle)
    {result : Except Error Payload} (hr : ∀ tx, result ≠ .ok (.transaction tx)) :
    s.Calm (s₁.resolve handle result) := by
  unfold Client.resolve
  cases hhd : s₁.handles[handle]? with
  | none => exact h
  | some hd =>
      -- The outcome is no transaction, so it gives none to anybody.
      have hset : s.Calm { s₁ with handles := s₁.handles.set handle (hd.resolve result) } := by
        refine { h with kept := ?_, size := by simpa using h.size, handles := ?_ }
        · rintro tx (hheld | ⟨other, hmem, hyields⟩)
          · exact h.kept tx (Or.inl hheld)
          · rcases List.mem_or_eq_of_mem_set hmem with hmem | rfl
            · exact h.kept tx (Or.inr ⟨other, hmem, hyields⟩)
            · refine h.kept tx (Or.inr ⟨hd, List.mem_of_getElem? hhd, ?_⟩)
              unfold Handle.resolve at hyields
              split at hyields
              · exact absurd (by simpa using hyields) (hr tx)
              · exact hyields
        · intro place hd' hplace hhd'
          have hne : handle ≠ place := fun he => hplace (he ▸ hw)
          simpa [hne] using h.handles place hd' hplace hhd'
      dsimp only
      cases hd.sleeper? with
      | none => exact hset
      | some name =>
          -- The wake is an aside, since someone waits for the handle with a result.
          rcases hset.history with ⟨asides, heq, hall⟩
          refine { hset with history := ⟨asides ++ [.wake handle name], ?_, ?_⟩ }
          · rw [← List.append_assoc, ← heq]
            rfl
          · intro e he
            rcases List.mem_append.1 he with he | he
            · exact hall e he
            · rw [List.mem_singleton.1 he]
              exact hw

theorem resolveAll {s s₁ : Client} (h : s.Calm s₁) {handles : List Nat}
    (hw : ∀ handle ∈ handles, s.Awaited handle) {result : Except Error Payload}
    (hr : ∀ tx, result ≠ .ok (.transaction tx)) : s.Calm (s₁.resolveAll handles result) := by
  unfold Client.resolveAll
  induction handles generalizing s₁ with
  | nil => exact h
  | cons handle rest ih =>
      apply ih (h.resolve (hw handle (by simp)) hr)
      intro other ho
      exact hw other (List.mem_cons_of_mem _ ho)

/-! ### Results -/

/-- Those who wait for a cursor get an outcome, and wait no more. -/
theorem serve (s : Client) {cursor : Nat} {c : Cursor} (hc : s.cursors[cursor]? = some c)
    {f : Cursor → Cursor} (hf : ∀ c : Cursor, (f c).waiters = []) {result : Except Error Payload}
    (hr : ∀ tx, result ≠ .ok (.transaction tx)) :
    s.Calm ((s.updateCursor cursor f).resolveAll c.waiters result) := by
  -- Those who waited at the start are served, and nobody waits afterwards.
  refine resolveAll (updateCursor s cursor ?_) ?_ hr
  · intro c handle hw
    simp [hf c] at hw
  · intro handle hw
    exact ⟨c, List.mem_of_getElem? hc, hw⟩

theorem completeCursor (s : Client) (cursor : Nat) (outcome : Except Error Params) :
    s.Calm (s.completeCursor cursor outcome).2 := by
  unfold Client.completeCursor
  cases hc : s.cursors[cursor]? with
  | none => exact refl s
  | some c =>
      dsimp only
      split
      · exact refl s
      · apply serve s hc (fun _ => rfl)
        -- The outcome of a statement is a summary, never a transaction.
        intro tx h
        cases outcome <;> simp [Except.map] at h

theorem finishCursor (s : Client) (tx cursor : Nat) (summary : Params) :
    s.Calm (s.finishCursor tx cursor summary) :=
  (completeCursor s cursor (.ok summary)).trans (record _ (e := .fetched tx cursor) trivial)

theorem failCursor (s : Client) (tx cursor : Nat) (e : Error) :
    s.Calm (s.failCursor tx cursor e) := by
  have hc := completeCursor s cursor (.error e)
  unfold Client.failCursor
  split <;> rename_i heq <;> rw [heq] at hc
  · refine (hc.trans (record _ (e := .statementFailed tx cursor e) trivial)).trans ?_
    exact mark _ _ (Transaction.footing_resultFailed e) (holdings_resultFailed e)
  · exact hc

theorem releaseCursor (s : Client) (requests : List Request) (cursor : Nat) :
    s.Calm (s.releaseCursor requests cursor) := by
  unfold Client.releaseCursor
  split
  · exact refl s
  · cases hc : s.cursors[cursor]? with
    | none => exact refl s
    | some c => exact serve s hc (fun _ => rfl) (by simp)

theorem dropCursor (s : Client) (cursor : Nat) : s.Calm (s.dropCursor cursor) := by
  refine Calm.trans (updateCursor s cursor ?_) (releaseCursor _ _ _)
  intro _ _ hw
  exact hw

/-! ## What a calm change leaves alone -/

variable {s s' : Client}

/-- A view that does not look at asides sees nothing new. -/
theorem seen {α : Type} (h : s.Calm s') {view : Event → Option α}
    (hview : ∀ e : Event, s.Aside e → view e = none) : s'.seen view = s.seen view := by
  rcases h.history with ⟨asides, heq, hall⟩
  have hnone : asides.filterMap view = [] := by
    apply List.filterMap_eq_nil_iff.2
    intro e he
    exact hview e (hall e he)
  calc
    s'.seen view = s.seen view ++ asides.filterMap view := seen_eq_of_history heq
    _ = s.seen view ++ [] := by rw [hnone]
    _ = s.seen view := List.append_nil _

theorem endings (h : s.Calm s') (tx : Nat) : s'.endings tx = s.endings tx :=
  h.seen fun e he => by cases e <;> first | rfl | exact he.elim

theorem calls (h : s.Calm s') (tx : Nat) : s'.calls tx = s.calls tx :=
  h.seen fun e he => by cases e <;> first | rfl | exact he.elim

theorem answers (h : s.Calm s') (tx : Nat) (exchange : Exchange) :
    s'.answers tx exchange = s.answers tx exchange :=
  h.seen fun e he => by cases e <;> first | rfl | exact he.elim

theorem terminalExchanges (h : s.Calm s') (tx : Nat) :
    s'.terminalExchanges tx = s.terminalExchanges tx :=
  h.seen fun e he => by cases e <;> first | rfl | exact he.elim

end Calm

end Client

/-! ## Replies of no consequence -/

/-- The handler has a completion to fire: someone waits for the end of an operation. -/
def Handler.ownsCompletion : Handler → Bool
  | .begun _ | .committed _ | .rolledBack _ => true
  | _ => false

theorem waiters_pushAll (rows : List (List Value)) (c : Cursor) :
    (rows.foldl Cursor.push c).waiters = c.waiters := by
  induction rows generalizing c with
  | nil => rfl
  | cons row rest ih => exact ih (c.push row)

/-- A request ends whose handler has no completion. Apart from the reply itself, that is calm, and
nothing is sent. -/
theorem Client.calm_answer (s : Client) (others : List Request) {r : Request}
    (h : r.handler.ownsCompletion = false) :
    (s.record (.reply r.owner r.exchange r.part r.reply)).Calm (s.answer others r).1 ∧
      (s.answer others r).2 = none := by
  rcases r with ⟨owner, exchange, part, handler, ⟨records, outcome⟩⟩
  cases handler with
  | ignore => exact ⟨Calm.refl _, rfl⟩
  | columns cursor =>
      cases outcome with
      | success metadata =>
          refine ⟨Calm.trans (Calm.updateCursor _ cursor ?_) (Calm.releaseCursor _ _ _), rfl⟩
          intro _ _ hw
          exact hw
      | failure e => exact ⟨(Calm.failCursor _ _ _ _).trans (Calm.releaseCursor _ _ _), rfl⟩
      | dropped => exact ⟨Calm.releaseCursor _ _ _, rfl⟩
  | rows cursor =>
      have hrows : (s.record (.reply owner exchange part ⟨records, outcome⟩)).Calm
          ((s.updateCursor cursor fun c => records.foldl Cursor.push c).record
            (.reply owner exchange part ⟨records, outcome⟩)) := by
        refine Calm.updateCursor (s.record (.reply owner exchange part ⟨records, outcome⟩))
          cursor ?_
        -- Rows that come in wake nobody.
        intro c handle hw
        rwa [waiters_pushAll] at hw
      cases outcome with
      | success metadata =>
          exact ⟨hrows.trans ((Calm.finishCursor _ _ _ _).trans (Calm.releaseCursor _ _ _)), rfl⟩
      | failure e =>
          exact ⟨hrows.trans ((Calm.failCursor _ _ _ _).trans (Calm.releaseCursor _ _ _)), rfl⟩
      | dropped => exact ⟨hrows.trans (Calm.releaseCursor _ _ _), rfl⟩
  | bookmark =>
      cases outcome with
      | success metadata =>
          refine ⟨Calm.mark _ _ ?_ (Calm.holdings_setBookmark _), rfl⟩
          exact Transaction.footing_setBookmark _
      | failure e => exact ⟨Calm.refl _, rfl⟩
      | dropped => exact ⟨Calm.refl _, rfl⟩
  | begun handle => simp [Handler.ownsCompletion] at h
  | committed done => simp [Handler.ownsCompletion] at h
  | rolledBack done => simp [Handler.ownsCompletion] at h

end ClientTransaction
