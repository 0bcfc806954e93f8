import ClientTransaction.Proofs.Blocking.Calls

/-!
# Blocking.Closing — what closing comes to

Closing claims the transaction, sends what its state asks for, and then finalizes, releases and
notifies, whatever the calls have come to. The cases are those of the connection, of the state at
the claim, and of the calls that fail.
-/

namespace ClientTransaction.Blocking

/-! ## Exchanges that end a transaction -/

/-- The calls of an exchange that ends a transaction. -/
def exchangeCalls (tx : Nat) (exchange : Exchange) (statement : String) : List Event :=
  [.run tx exchange statement [], .pullAll tx exchange, .sync tx]

def commitCalls (tx : Nat) : List Event :=
  exchangeCalls tx .commit Message.commit

def rollbackCalls (tx : Nat) : List Event :=
  exchangeCalls tx .rollback Message.rollback

/-- An exchange that succeeds has made its three calls and sets the terminal state. One that fails
stops short, and sets nothing. -/
inductive Finished (tx : Nat) (calls : List Event) (terminal : State) (s : Client) : Sent → Prop
  | ended {s₁ : Client} (h : Made tx calls s s₁) :
      Finished tx calls terminal s (none, s₁.updateTransaction tx (Transaction.finalize terminal))
  | stopped {s₁ : Client} {events : List Event} (e : Error) (hs : StopsShort tx events calls)
      (h : Made tx events s s₁) : Finished tx calls terminal s (some e, s₁)

theorem finished_finish (tx : Nat) (exchange : Exchange) (statement : String) (terminal : State)
    {s : Client} (h : s.connection.Passive) :
    Finished tx (exchangeCalls tx exchange statement) terminal s
      (finish tx exchange statement terminal s) := by
  have hrun := ran_run tx exchange statement [] .ignore rfl h
  have hpull := hrun.andThen fun s' hs' => ran_pullAll tx exchange .bookmark rfl hs'
  have hsync := hpull.andThen fun s' hs' => ran_sync tx hs'
  unfold finish
  generalize ((run tx exchange statement [] .ignore s).andThen
    (pullAll tx exchange .bookmark)).andThen (sync tx) = sent at hsync
  rcases sent with ⟨failure, s₁⟩
  cases failure with
  | none => exact .ended hsync
  | some e =>
      rcases hsync with ⟨events, hstop, hmade⟩
      exact .stopped e hstop hmade

theorem finished_commitExchange (tx : Nat) {s : Client} (h : s.connection.Passive) :
    Finished tx (commitCalls tx) .committed s (commitExchange tx s) :=
  finished_finish tx .commit Message.commit .committed h

theorem finished_rollbackExchange (tx : Nat) {s : Client} (h : s.connection.Passive) :
    Finished tx (rollbackCalls tx) .rolledBack s (rollbackExchange tx s) :=
  finished_finish tx .rollback Message.rollback .rolledBack h

/-! ## The end -/

/-- The transaction has ended in the state `final` with its connection released and then its owner
notified, and `events` are the calls that were made for it. Nothing of this concerns another
transaction. -/
structure Closed (tx : Nat) (final : State) (events : List Event) (s s' : Client) : Prop where
  footing : ∀ place, s'.footing? place =
    if place = tx then some ⟨true, some final⟩ else s.footing? place
  endings : ∀ place, s'.endings place =
    s.endings place ++ if place = tx then [.released, .notified] else []
  calls : ∀ place, s'.calls place = s.calls place ++ if place = tx then events else []
  passive : s'.connection.Passive
  handles : s'.handles.length = s.handles.length

section

variable {tx : Nat} {events : List Event} {t : Transaction} {s s₁ : Client}

theorem footing?_of_getElem? (ht : s.transactions[tx]? = some t) :
    s.footing? tx = some t.footing := by
  simp [Client.footing?, ht]

/-- Nothing has set a terminal state before the transaction is released. -/
theorem closed_of_made (ht : s.transactions[tx]? = some t) (ho : t.isOpen = true)
    (h : Made tx events (s.updateTransaction tx Transaction.claim) s₁) :
    Closed tx .rolledBack events s (s₁.release tx) where
  footing := by
    intro place
    have hfinal : t.footing.final? = none := t.isOpen_iff_footing.1 ho
    -- The release finds the transaction open and rolls it back.
    rw [Client.footing?_release, h.footing, Client.footing?_claim]
    by_cases hp : place = tx
    · subst hp
      simp [footing?_of_getElem? ht, hfinal]
    · simp [hp, Ne.symm hp]
  endings := by
    intro place
    rw [Client.endings_release, h.endings]
    simp [Client.endings, eq_comm]
  calls := by
    intro place
    refine Eq.trans ?_ (h.calls place)
    simp [Client.calls, Client.release]
  passive := h.passive
  handles := h.handles

/-- The exchange has set the terminal state before the transaction is released. -/
theorem closed_of_finalized {terminal : State} (hterminal : terminal.isTerminal = true)
    (ht : s.transactions[tx]? = some t) (ho : t.isOpen = true)
    (h : Made tx events (s.updateTransaction tx Transaction.claim) s₁) :
    Closed tx terminal events s
      ((s₁.updateTransaction tx (Transaction.finalize terminal)).release tx) where
  footing := by
    intro place
    have hfinal : t.footing.final? = none := t.isOpen_iff_footing.1 ho
    -- The release finds the transaction terminal and leaves its state.
    rw [Client.footing?_release, Client.footing?_finalize _ hterminal, h.footing,
      Client.footing?_claim]
    by_cases hp : place = tx
    · subst hp
      simp [footing?_of_getElem? ht, hfinal]
    · simp [hp, Ne.symm hp]
  endings := by
    intro place
    have hsame : (s₁.updateTransaction tx (Transaction.finalize terminal)).endings place =
        s.endings place := h.endings place
    rw [Client.endings_release, hsame]
    simp [eq_comm]
  calls := by
    intro place
    refine Eq.trans ?_ (h.calls place)
    simp [Client.calls, Client.release]
  passive := h.passive
  handles := h.handles

end

/-! ## Closing -/

/-- How closing goes, by whether the connection is open and the state at the claim: the error that
it answers, the terminal state, and the calls that it makes. -/
inductive Closing (tx : Nat) : Bool → State → Option Error → State → List Event → Prop
  | offline {state : State} (h : state ≠ .markedSuccess) :
      Closing tx false state none .rolledBack []
  | offlineMarked :
      Closing tx false .markedSuccess (some .closedBeforeCommit) .rolledBack []
  | failed : Closing tx true .failed none .rolledBack []
  | committed : Closing tx true .markedSuccess none .committed (commitCalls tx)
  /-- COMMIT failed; ROLLBACK is tried, and its own failure does not show. -/
  | fellBack (e : Error) {commit rollback : List Event}
      (hc : StopsShort tx commit (commitCalls tx))
      (hr : rollback = rollbackCalls tx ∨ StopsShort tx rollback (rollbackCalls tx)) :
      Closing tx true .markedSuccess (some e) .rolledBack (commit ++ rollback)
  | rolledBack {state : State} (h : state = .active ∨ state = .markedFailed) :
      Closing tx true state none .rolledBack (rollbackCalls tx)
  | rollbackFailed {state : State} (h : state = .active ∨ state = .markedFailed) (e : Error)
      {events : List Event} (hs : StopsShort tx events (rollbackCalls tx)) :
      Closing tx true state (some e) .rolledBack events

/-- A transaction ends committed or rolled back. -/
theorem Closing.final_eq {tx : Nat} {online : Bool} {state final : State} {failure : Option Error}
    {events : List Event} (h : Closing tx online state failure final events) :
    final = .committed ∨ final = .rolledBack := by
  cases h <;> simp

/-- What the server has given up is rolled back. -/
theorem Closing.final_of_failed {tx : Nat} {online : Bool} {failure : Option Error} {final : State}
    {events : List Event} (h : Closing tx online .failed failure final events) :
    final = .rolledBack := by
  cases h <;> rfl

/-- Nothing is sent for it. -/
theorem Closing.events_of_failed {tx : Nat} {online : Bool} {failure : Option Error} {final : State}
    {events : List Event} (h : Closing tx online .failed failure final events) : events = [] := by
  cases h with
  | offline => rfl
  | failed => rfl
  | rolledBack h => simp at h
  | rollbackFailed h => simp at h

section

variable {s : Client} {tx : Nat} {t : Transaction}

/-- Closing that sends a ROLLBACK. -/
theorem closing_rollback (hp : s.connection.Passive) (ht : s.transactions[tx]? = some t)
    (ho : t.isOpen = true) {state : State} (hs : state = .active ∨ state = .markedFailed) :
    ∃ final events,
      Closing tx true state (rollbackExchange tx (s.updateTransaction tx Transaction.claim)).1
        final events ∧
      Closed tx final events s
        ((rollbackExchange tx (s.updateTransaction tx Transaction.claim)).2.release tx) := by
  have hclaim : (s.updateTransaction tx Transaction.claim).connection.Passive := hp
  have hroll := finished_rollbackExchange tx hclaim
  generalize rollbackExchange tx (s.updateTransaction tx Transaction.claim) = sent at hroll
  cases hroll with
  | ended hmade =>
      exact ⟨.rolledBack, _, .rolledBack hs, closed_of_finalized rfl ht ho hmade⟩
  | stopped e hstop hmade =>
      exact ⟨.rolledBack, _, .rollbackFailed hs e hstop, closed_of_made ht ho hmade⟩

/-- Closing that sends a COMMIT, and a ROLLBACK if that fails. -/
theorem closing_commitOrRollback (hp : s.connection.Passive) (ht : s.transactions[tx]? = some t)
    (ho : t.isOpen = true) :
    ∃ final events,
      Closing tx true .markedSuccess
        (commitOrRollback tx (s.updateTransaction tx Transaction.claim)).1 final events ∧
      Closed tx final events s
        ((commitOrRollback tx (s.updateTransaction tx Transaction.claim)).2.release tx) := by
  have hclaim : (s.updateTransaction tx Transaction.claim).connection.Passive := hp
  have hcommit := finished_commitExchange tx hclaim
  unfold commitOrRollback
  generalize commitExchange tx (s.updateTransaction tx Transaction.claim) = sent at hcommit
  cases hcommit with
  | ended hmade => exact ⟨.committed, _, .committed, closed_of_finalized rfl ht ho hmade⟩
  | @stopped s₁ events e hstop hmade =>
      -- The error of the COMMIT is answered, whatever comes of the ROLLBACK.
      have hback := finished_rollbackExchange tx hmade.passive
      simp only
      generalize rollbackExchange tx s₁ = sent at hback
      cases hback with
      | ended hmade' =>
          exact ⟨.rolledBack, _, .fellBack e hstop (Or.inl rfl),
            closed_of_finalized rfl ht ho (hmade.trans hmade')⟩
      | stopped e' hstop' hmade' =>
          exact ⟨.rolledBack, _, .fellBack e hstop (Or.inr hstop'),
            closed_of_made ht ho (hmade.trans hmade')⟩

/-- Nothing is closed where there is no transaction. -/
theorem close_of_unborn (ht : s.transactions[tx]? = none) : close s tx = (none, s) := by
  simp [close, ht]

/-- Closing what has been claimed does nothing. -/
theorem close_of_claimed (ht : s.transactions[tx]? = some t) (hc : t.closing = true) :
    close s tx = (none, s) := by
  simp [close, ht, hc]

/-- The first call that closes a transaction claims it, and releases the connection in the end. -/
theorem close_of_unclaimed (ht : s.transactions[tx]? = some t) (hc : t.closing = false) :
    close s tx =
      ((conclude tx t.state (s.updateTransaction tx Transaction.claim)).1,
        (conclude tx t.state (s.updateTransaction tx Transaction.claim)).2.release tx) := by
  simp [close, ht, hc]

/-- Closing an open transaction that nobody has claimed. -/
theorem closing_close (hp : s.connection.Passive) (ht : s.transactions[tx]? = some t)
    (hc : t.closing = false) (ho : t.isOpen = true) :
    ∃ final events, Closing tx s.connection.isOpen t.state (close s tx).1 final events ∧
      Closed tx final events s (close s tx).2 := by
  have hclaim : (s.updateTransaction tx Transaction.claim).connection.Passive := hp
  have hunsent : Closed tx .rolledBack [] s
      ((s.updateTransaction tx Transaction.claim).release tx) :=
    closed_of_made ht ho (Made.refl tx hclaim)
  have hopen : (s.updateTransaction tx Transaction.claim).connection.isOpen = s.connection.isOpen :=
    rfl
  rw [close_of_unclaimed ht hc]
  unfold conclude
  rw [hopen]
  cases hconn : s.connection.isOpen with
  | false =>
      -- Nothing is sent, and only a transaction that was to be committed is an error.
      refine ⟨.rolledBack, [], ?_⟩
      simp only [Bool.false_eq_true, if_false]
      split
      · rename_i hs
        exact ⟨hs ▸ .offlineMarked, hunsent⟩
      · rename_i hs
        exact ⟨.offline hs, hunsent⟩
  | true =>
      simp only [if_true]
      cases hs : t.state with
      | active => exact closing_rollback hp ht ho (Or.inl rfl)
      | markedFailed => exact closing_rollback hp ht ho (Or.inr rfl)
      | markedSuccess => exact closing_commitOrRollback hp ht ho
      | failed => exact ⟨.rolledBack, [], .failed, hunsent⟩
      | committed => simp [Transaction.isOpen, State.isOpen, State.isTerminal, hs] at ho
      | rolledBack => simp [Transaction.isOpen, State.isOpen, State.isTerminal, hs] at ho

end

end ClientTransaction.Blocking
