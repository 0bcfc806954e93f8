import ClientTransaction.Proofs.Blocking.Settled

/-!
# Blocking.Commit — what a commit that waits may report

Committing takes the transaction away from its caller, who can then go by the answer alone. The
answer is honest when success means that COMMIT was sent and the transaction ended committed, and
when a rollback shows as an error. It is honest for a transaction that is active or marked for
commit, whatever the connection does. For one that is marked for rollback it is honest only if the
ROLLBACK exchange fails, and for one that the server has given up it never is: then nothing is sent
and success is answered.
-/

namespace ClientTransaction.Blocking

open Scenario

/-- The answer of a commit of `tx`, made in `s` and leaving `s'`, can be relied on. -/
structure HonestCommit (tx : Nat) (s : Client) (answer : Answer) (s' : Client) : Prop where
  /-- Success means that a COMMIT exchange was made, and nothing else, and that it decided. -/
  committed : answer = .ended →
    s'.calls tx = s.calls tx ++ commitCalls tx ∧ s'.final? tx = some .committed
  rolledBack : s'.final? tx = some .rolledBack → ∃ e, answer = .failed e

section

variable {tx : Nat} {s s' : Client} {final : State} {events : List Event} {failure : Option Error}

theorem final?_of_closed (h : Closed tx final events s s') : s'.final? tx = some final := by
  rw [Client.final?_eq, h.footing, if_pos rfl]
  rfl

/-- An answer that is an error is always honest about a rollback. -/
theorem honest_failed (tx : Nat) (s s' : Client) (e : Error) :
    HonestCommit tx s (.failed e) s' where
  committed := by
    intro heq
    simp at heq
  rolledBack := by
    intro _
    exact ⟨e, rfl⟩

theorem not_honest_ended (h : Closed tx .rolledBack events s s') :
    ¬ HonestCommit tx s .ended s' := by
  intro hh
  rcases hh.rolledBack (final?_of_closed h) with ⟨e, heq⟩
  simp at heq

theorem honest_committed (h : Closed tx .committed (commitCalls tx) s s') :
    HonestCommit tx s .ended s' where
  committed := by
    intro _
    exact ⟨by simpa using h.calls tx, final?_of_closed h⟩
  rolledBack := by
    intro hf
    simp [final?_of_closed h] at hf

/-- Marked for commit, whatever the connection does: the answer is honest. -/
theorem honest_markedSuccess {online : Bool}
    (hc : Closing tx online .markedSuccess failure final events) (h : Closed tx final events s s') :
    HonestCommit tx s (.ofFailure .ended failure) s' := by
  cases hc with
  | offline hne => exact absurd rfl hne
  | offlineMarked => exact honest_failed tx s s' _
  | committed => exact honest_committed h
  | fellBack e => exact honest_failed tx s s' e
  | rolledBack hs => simp at hs
  | rollbackFailed hs => simp at hs

/-- Given up by the server: the answer is not honest. -/
theorem not_honest_failed {online : Bool} (hc : Closing tx online .failed failure final events)
    (h : Closed tx final events s s') : ¬ HonestCommit tx s (.ofFailure .ended failure) s' := by
  cases hc with
  | offline => exact not_honest_ended h
  | failed => exact not_honest_ended h
  | rolledBack hs => simp at hs
  | rollbackFailed hs => simp at hs

/-- Marked for rollback: the answer is honest just if it is an error. -/
theorem honest_markedFailed_iff {online : Bool}
    (hc : Closing tx online .markedFailed failure final events) (h : Closed tx final events s s') :
    HonestCommit tx s (.ofFailure .ended failure) s' ↔ failure ≠ none := by
  cases hc with
  | offline => exact ⟨fun hh => absurd hh (not_honest_ended h), fun hne => absurd rfl hne⟩
  | rolledBack => exact ⟨fun hh => absurd hh (not_honest_ended h), fun hne => absurd rfl hne⟩
  | rollbackFailed _ e => exact ⟨fun _ => by simp, fun _ => honest_failed tx s s' e⟩

/-- A change of a transaction that changes nothing leaves the client as it is. -/
theorem updateTransaction_eq_self {t : Transaction} {f : Transaction → Transaction}
    (ht : s.transactions[tx]? = some t) (hf : f t = t) : s.updateTransaction tx f = s := by
  have hmodify : s.transactions.modify tx f = s.transactions := by
    refine List.ext_getElem? ?_
    intro place
    by_cases hp : tx = place
    · subst hp
      simp [ht, hf]
    · simp [hp]
  simp [Client.updateTransaction, hmodify]

end

/-- The error of closing a transaction that is marked for rollback is that of its ROLLBACK exchange,
if one can be made. -/
theorem close_markedFailed {s : Client} {tx : Nat} {t : Transaction}
    (ht : s.transactions[tx]? = some t) (hc : t.closing = false) (hm : t.state = .markedFailed) :
    (close s tx).1 ≠ none ↔ s.connection.isOpen = true ∧
      (rollbackExchange tx (s.updateTransaction tx Transaction.claim)).1 ≠ none := by
  cases hconn : s.connection.isOpen <;> simp [close, conclude, ht, hc, hm, hconn]

/-! ## The step of the application -/

/-- The client at the moment when a commit claims the transaction that its caller knew as `name`. -/
def committing (s : Client) (name : String) (tx : Nat) : Client :=
  (s.updateTransaction tx (Transaction.letGo name)).updateTransaction tx Transaction.markSuccess

section

variable {s : Client} {name : String} {tx : Nat} {t : Transaction}

theorem perform_commit (handle : Option String) (hname : transaction? s name = some tx)
    (ht : s.transactions[tx]? = some t) :
    perform .blocking s (.commit name handle) =
      (.ofFailure .ended (close (committing s name tx) tx).1,
        (close (committing s name tx) tx).2) := by
  simp [perform, terminate, onTransaction, hname, ht, commit, committing]

theorem calm_committing (s : Client) (name : String) (tx : Nat) :
    s.Calm (committing s name tx) :=
  (Client.Calm.letGo s tx name).trans (.mark _ tx Transaction.footing_markSuccess fun _ => rfl)

/-- A commit closes the transaction in the state that the mark leaves. -/
theorem closing_committing (h : Settled s) (ht : s.transactions[tx]? = some t)
    (ho : t.isOpen = true) (name : String) :
    ∃ final events,
      Closing tx s.connection.isOpen t.state.markSuccess (close (committing s name tx) tx).1 final
        events ∧
      Closed tx final events s (close (committing s name tx) tx).2 := by
  have hcalm := calm_committing s name tx
  have hmarked : (committing s name tx).transactions[tx]? =
      some (t.letGo name).markSuccess := by
    simp [committing, ht]
  have hunclaimed : t.closing = false := h.unclaimed ht ho
  have hopen : (t.letGo name).markSuccess.isOpen = true := by
    rw [Transaction.isOpen_iff_footing] at ho ⊢
    simpa using ho
  rcases closing_close (h.calm hcalm).passive hmarked hunclaimed hopen with
    ⟨final, events, hclosing, hclosed⟩
  -- Letting go and marking move no footing and make no call.
  refine ⟨final, events, hclosing, ?_, ?_, ?_, hclosed.passive,
    hclosed.handles.trans hcalm.size⟩
  · intro place
    rw [hclosed.footing, hcalm.footing?]
  · intro place
    rw [hclosed.endings, hcalm.endings]
  · intro place
    rw [hclosed.calls, hcalm.calls]

/-- A mark for rollback stands, so the commit does what closing does. -/
theorem committing_markedFailed (ht : s.transactions[tx]? = some t) (hm : t.state = .markedFailed)
    (name : String) :
    committing s name tx = s.updateTransaction tx (Transaction.letGo name) := by
  have hgone : (s.updateTransaction tx (Transaction.letGo name)).transactions[tx]? =
      some (t.letGo name) := by
    simp [ht]
  -- A success does not take back a failure.
  apply updateTransaction_eq_self hgone
  simp [Transaction.markSuccess, Transaction.letGo, State.markSuccess, hm]

end

/-- Exactly when a commit of an open transaction answers honestly, after any run. -/
theorem honest_commit_iff (steps : List Step) {s : Client} (hs : after .blocking {} steps = s)
    (name : String) (handle : Option String) {tx : Nat} {t : Transaction}
    (hname : transaction? s name = some tx) (ht : s.transactions[tx]? = some t)
    (ho : t.isOpen = true) :
    HonestCommit tx s (perform .blocking s (.commit name handle)).1
        (perform .blocking s (.commit name handle)).2 ↔
      t.state = .active ∨ t.state = .markedSuccess ∨
        (t.state = .markedFailed ∧ s.connection.isOpen = true ∧
          (rollbackExchange tx ((s.updateTransaction tx (Transaction.letGo name)).updateTransaction
            tx Transaction.claim)).1 ≠ none) := by
  have hsettled : Settled s := hs ▸ settled_after settled_start steps
  rcases closing_committing hsettled ht ho name with ⟨final, events, hclosing, hclosed⟩
  rw [perform_commit handle hname ht]
  -- Marking turns an active transaction into one to be committed, and leaves the others alone.
  cases hstate : t.state with
  | active =>
      rw [hstate] at hclosing
      have hhonest := honest_markedSuccess hclosing hclosed
      exact ⟨fun _ => Or.inl rfl, fun _ => hhonest⟩
  | markedSuccess =>
      rw [hstate] at hclosing
      have hhonest := honest_markedSuccess hclosing hclosed
      exact ⟨fun _ => Or.inr (Or.inl rfl), fun _ => hhonest⟩
  | markedFailed =>
      rw [hstate] at hclosing
      have hiff := honest_markedFailed_iff hclosing hclosed
      have hgone : (s.updateTransaction tx (Transaction.letGo name)).transactions[tx]? =
          some (t.letGo name) := by
        simp [ht]
      have hunclaimed : t.closing = false := hsettled.unclaimed ht ho
      have hmarked : (t.letGo name).state = .markedFailed := hstate
      have hfails := close_markedFailed hgone hunclaimed hmarked
      rw [← committing_markedFailed ht hstate name] at hfails
      rw [hiff, hfails]
      simp [committing_markedFailed ht hstate name]
  | failed =>
      rw [hstate] at hclosing
      have hnot := not_honest_failed hclosing hclosed
      exact ⟨fun hhonest => absurd hhonest hnot, fun hor => by simp at hor⟩
  | committed => simp [Transaction.isOpen, State.isOpen, State.isTerminal, hstate] at ho
  | rolledBack => simp [Transaction.isOpen, State.isOpen, State.isTerminal, hstate] at ho

/-- A transaction that has just been begun. -/
def begun : List Step :=
  [.begin { tx := "t", config := .settings [], reported := true, bookmarkOf := none, handle := "" }]

/-- The connection breaks while a statement is answered, and the server gives the transaction up. -/
def brokenOff : List Step :=
  begun ++ [.script ⟨"S", some { outcome := .failure (.connection "lost") }, none⟩,
    .run "t" "S" [] none, .deliver none]

theorem honest_commit_of_begun :
    HonestCommit 0 (after .blocking {} begun)
      (perform .blocking (after .blocking {} begun) (.commit "t" none)).1
      (perform .blocking (after .blocking {} begun) (.commit "t" none)).2 :=
  (honest_commit_iff begun rfl "t" none
    (t := { title := "t", reported := true, holdings := [⟨"t", true⟩] }) rfl rfl rfl).2
    (Or.inl rfl)

/-- A commit that reports success may have sent nothing and rolled the transaction back. -/
theorem exists_commit_not_honest :
    ¬ ∀ (steps : List Step) (name : String) (handle : Option String) (tx : Nat) (t : Transaction),
      transaction? (after .blocking {} steps) name = some tx →
      (after .blocking {} steps).transactions[tx]? = some t → t.isOpen = true →
      HonestCommit tx (after .blocking {} steps)
        (perform .blocking (after .blocking {} steps) (.commit name handle)).1
        (perform .blocking (after .blocking {} steps) (.commit name handle)).2 := by
  intro hall
  -- The transaction is open and failed, and nothing is sent for it.
  have hcommit := hall brokenOff "t" none 0
    { title := "t", reported := true, state := .failed, holdings := [⟨"t", true⟩] } rfl rfl rfl
  have hnothing : (perform .blocking (after .blocking {} brokenOff) (.commit "t" none)).2.final? 0 =
      some .rolledBack := rfl
  have hsuccess : (perform .blocking (after .blocking {} brokenOff) (.commit "t" none)).1 =
      .ended := rfl
  rcases hcommit.rolledBack hnothing with ⟨e, he⟩
  rw [hsuccess] at he
  simp at he

end ClientTransaction.Blocking
