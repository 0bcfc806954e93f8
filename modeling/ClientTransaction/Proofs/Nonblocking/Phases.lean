import ClientTransaction.Proofs.Client.Serves
import ClientTransaction.Proofs.Nonblocking.Moves

/-!
# Nonblocking.Phases — the life of a transaction

A transaction is begun, runs, is claimed, and ends. What can be seen of it in each phase is fixed:
its footing, the outstanding requests that decide about it, and its part of the history. A phase
carries what the next one depends on, so that no phase stands for a state that cannot be.
-/

namespace ClientTransaction

/-! ## Replies that are no success -/

inductive Loss
  | failure (e : Error)
  /-- The handler was given up. -/
  | dropped
  deriving Repr

namespace Loss

def outcome : Loss → Outcome
  | .failure e => .failure e
  | .dropped => .dropped

/-- What a caller is told. -/
def error : Loss → Error
  | .failure e => e
  | .dropped => .completionDropped

end Loss

namespace Outcome

/-- What a caller is told. -/
def result : Outcome → Except Error Unit
  | .success _ => .ok ()
  | .failure e => .error e
  | .dropped => .error .completionDropped

theorem success_or_loss (o : Outcome) :
    (∃ metadata, o = .success metadata) ∨ ∃ loss : Loss, o = loss.outcome := by
  cases o with
  | success metadata => exact Or.inl ⟨metadata, rfl⟩
  | failure e => exact Or.inr ⟨.failure e, rfl⟩
  | dropped => exact Or.inr ⟨.dropped, rfl⟩

end Outcome

namespace Nonblocking

/-! ## Phases -/

/-- How a transaction ended, with the one who was told of it. -/
inductive Conclusion
  /-- BEGIN failed. -/
  | refused (e : Error)
  /-- Nothing was sent. -/
  | finished (result : Except Error Unit) (l : Listener)
  | committed (fallback : Bool) (metadata : Params) (l : Listener)
  /-- COMMIT failed, and that was all. -/
  | lost (loss : Loss) (l : Listener)
  /-- COMMIT failed, and ROLLBACK was answered in some way. -/
  | fellBack (loss : Loss) (answer : Outcome) (l : Listener)
  | rolledBack (answer : Outcome) (l : Listener)

namespace Conclusion

def final : Conclusion → State
  | .committed .. => .committed
  | _ => .rolledBack

def exchanges : Conclusion → List Exchange
  | .refused _ | .finished .. => []
  | .committed .. | .lost .. => [.commit]
  | .fellBack .. => [.commit, .rollback]
  | .rolledBack .. => [.rollback]

/-- The replies to the PULL_ALL of COMMIT. -/
def commits : Conclusion → List Outcome
  | .committed _ metadata _ => [.success metadata]
  | .lost loss _ | .fellBack loss _ _ => [loss.outcome]
  | _ => []

/-- The replies to the PULL_ALL of ROLLBACK. -/
def rollbacks : Conclusion → List Outcome
  | .fellBack _ answer _ | .rolledBack answer _ => [answer]
  | _ => []

end Conclusion

inductive Phase
  | unborn
  /-- BEGIN is to be acknowledged before anyone gets the transaction. -/
  | starting (handle : Nat)
  | running
  /-- COMMIT is to be answered; `fallback` tells whether a ROLLBACK follows if it fails. -/
  | committing (fallback : Bool) (l : Listener)
  /-- COMMIT failed, and ROLLBACK is to be answered. -/
  | fallingBack (loss : Loss) (l : Listener)
  | rollingBack (l : Listener)
  | ended (c : Conclusion)

/-- Nobody has got the transaction yet. -/
def Phase.isHidden : Phase → Bool
  | .unborn | .starting _ => true
  | _ => false

/-! ## Accounts -/

/-- What can be seen of a transaction. -/
structure Account where
  footing? : Option Footing
  /-- The outstanding requests that decide about it. -/
  due : List (Exchange × Part × Handler)
  endings : List Ending := []
  exchanges : List Exchange := []
  commits : List Outcome := []
  rollbacks : List Outcome := []

/-- What is due once COMMIT has been sent. -/
def commitChain (fallback : Bool) (l : Listener) : TerminalChain :=
  if fallback then .fallback .rollback (ending l) else ending l

def Phase.account : Phase → Account
  | .unborn => { footing? := none, due := [] }
  | .starting handle =>
      { footing? := some ⟨false, none⟩, due := [(.begin, .pullAll, .begun handle)] }
  | .running => { footing? := some ⟨false, none⟩, due := [] }
  | .committing fallback l =>
      { footing? := some ⟨true, none⟩
        due := [(.commit, .pullAll, .committed (commitChain fallback l))]
        exchanges := [.commit] }
  | .fallingBack loss l =>
      { footing? := some ⟨true, none⟩
        due := [(.rollback, .pullAll, .rolledBack (.resume loss.error (ending l)))]
        exchanges := [.commit, .rollback]
        commits := [loss.outcome] }
  | .rollingBack l =>
      { footing? := some ⟨true, none⟩
        due := [(.rollback, .pullAll, .rolledBack (ending l))]
        exchanges := [.rollback] }
  | .ended c =>
      { footing? := some ⟨true, some c.final⟩
        due := []
        endings := [.released, .notified]
        exchanges := c.exchanges
        commits := c.commits
        rollbacks := c.rollbacks }

/-- The reply to the request has a completion to fire, or is the reply to a COMMIT or ROLLBACK. -/
def decides (r : Request) : Bool :=
  r.handler.ownsCompletion ||
    (r.part == .pullAll && (r.exchange == .commit || r.exchange == .rollback))

/-- What a request decides about a transaction. -/
def role? (tx : Nat) (r : Request) : Option (Exchange × Part × Handler) :=
  if r.owner = tx ∧ decides r = true then some (r.exchange, r.part, r.handler) else none

def due (tx : Nat) (requests : List Request) : List (Exchange × Part × Handler) :=
  requests.filterMap (role? tx)

def Situation.account (σ : Situation) (tx : Nat) : Account where
  footing? := σ.client.footing? tx
  due := Nonblocking.due tx σ.outstanding
  endings := σ.client.endings tx
  exchanges := σ.client.terminalExchanges tx
  commits := σ.client.answers tx .commit
  rollbacks := σ.client.answers tx .rollback

/-- The transaction is in a phase. -/
structure Standing (tx : Nat) (p : Phase) (σ : Situation) : Prop where
  account : σ.account tx = p.account
  hidden : p.isHidden = true → ¬ σ.client.Kept tx

theorem Standing.final?_eq {tx : Nat} {p : Phase} {σ : Situation} (hp : Standing tx p σ) :
    σ.client.final? tx = p.account.footing?.bind Footing.final? := by
  rw [Client.final?_eq]
  exact congrArg (fun a : Account => a.footing?.bind Footing.final?) hp.account

/-! ## Changes that do not concern a transaction -/

/-- Nothing of the transaction is changed in the client, and it is given to nobody new. -/
structure Untouched (tx : Nat) (s s' : Client) : Prop where
  footing? : s'.footing? tx = s.footing? tx
  endings : s'.endings tx = s.endings tx
  exchanges : s'.terminalExchanges tx = s.terminalExchanges tx
  commits : s'.answers tx .commit = s.answers tx .commit
  rollbacks : s'.answers tx .rollback = s.answers tx .rollback
  kept : s'.Kept tx → s.Kept tx

/-- The event does not concern the end of the transaction. -/
structure Foreign (tx : Nat) (e : Event) : Prop where
  ending : e.ending? tx = none
  exchange : e.terminalExchange? tx = none
  commit : e.answer? tx .commit = none
  rollback : e.answer? tx .rollback = none

namespace Untouched

variable {tx : Nat} {s s₁ s₂ : Client}

theorem refl (tx : Nat) (s : Client) : Untouched tx s s :=
  ⟨rfl, rfl, rfl, rfl, rfl, id⟩

theorem trans (h : Untouched tx s s₁) (h' : Untouched tx s₁ s₂) : Untouched tx s s₂ where
  footing? := h'.footing?.trans h.footing?
  endings := h'.endings.trans h.endings
  exchanges := h'.exchanges.trans h.exchanges
  commits := h'.commits.trans h.commits
  rollbacks := h'.rollbacks.trans h.rollbacks
  kept := by
    intro hk
    exact h.kept (h'.kept hk)

theorem of_calm (tx : Nat) (h : s.Calm s₁) : Untouched tx s s₁ where
  footing? := h.footing? tx
  endings := h.endings tx
  exchanges := h.terminalExchanges tx
  commits := h.answers tx .commit
  rollbacks := h.answers tx .rollback
  kept := h.kept tx

theorem record (s : Client) {e : Event} (h : Foreign tx e) : Untouched tx s (s.record e) where
  footing? := rfl
  endings := by
    rw [Client.endings, Client.seen_record, h.ending]
    simp [Client.endings]
  exchanges := by
    rw [Client.terminalExchanges, Client.seen_record, h.exchange]
    simp [Client.terminalExchanges]
  commits := by
    rw [Client.answers, Client.seen_record, h.commit]
    simp [Client.answers]
  rollbacks := by
    rw [Client.answers, Client.seen_record, h.rollback]
    simp [Client.answers]
  kept := id

theorem updateConnection (tx : Nat) (s : Client) (f : Connection → Connection) :
    Untouched tx s (s.updateConnection f) :=
  ⟨rfl, rfl, rfl, rfl, rfl, id⟩

theorem updateCursor (tx : Nat) (s : Client) (cursor : Nat) (f : Cursor → Cursor) :
    Untouched tx s (s.updateCursor cursor f) :=
  ⟨rfl, rfl, rfl, rfl, rfl, id⟩

/-- Another transaction changes. -/
theorem updateTransaction (s : Client) {place : Nat} (hp : place ≠ tx)
    (f : Transaction → Transaction) : Untouched tx s (s.updateTransaction place f) where
  footing? := by rw [Client.footing?_updateTransaction, if_neg hp]
  endings := rfl
  exchanges := rfl
  commits := rfl
  rollbacks := rfl
  kept := by
    rintro (⟨t, ht, hheld⟩ | hyields)
    · exact Or.inl ⟨t, by simpa [hp] using ht, hheld⟩
    · exact Or.inr hyields

theorem addHandle (s : Client) {h : Handle Payload}
    (hh : h.state ≠ .resolved (.ok (.transaction tx))) : Untouched tx s (s.addHandle h) where
  footing? := rfl
  endings := rfl
  exchanges := rfl
  commits := rfl
  rollbacks := rfl
  kept := by
    rintro (hheld | ⟨h', hmem, hyields⟩)
    · exact Or.inl hheld
    · rcases List.mem_append.1 hmem with hmem | hmem
      · exact Or.inr ⟨h', hmem, hyields⟩
      · rw [List.mem_singleton.1 hmem] at hyields
        exact absurd hyields hh

/-- Another transaction is begun. -/
theorem addTransaction (s : Client) (t : Transaction) (hp : s.transactions.length ≠ tx) :
    Untouched tx s (s.addTransaction t) := by
  -- The new transaction is not at this place, whether there is one or not.
  have hplace := (Client.Serves.addTransaction s t).others tx hp.symm
  refine ⟨congrArg (Option.map Transaction.footing) hplace, rfl, rfl, rfl, rfl, ?_⟩
  rintro (⟨t', ht', hheld⟩ | hyields)
  · exact Or.inl ⟨t', hplace ▸ ht', hheld⟩
  · exact Or.inr hyields

/-- A handle is resolved, but not with this transaction. -/
theorem resolve (s : Client) (handle : Nat) {result : Except Error Payload}
    (hr : result ≠ .ok (.transaction tx)) : Untouched tx s (s.resolve handle result) := by
  unfold Client.resolve
  cases hh : s.handles[handle]? with
  | none => exact refl tx s
  | some h =>
      have hset : Untouched tx s { s with handles := s.handles.set handle (h.resolve result) } := by
        refine ⟨rfl, rfl, rfl, rfl, rfl, ?_⟩
        rintro (hheld | ⟨h', hmem, hyields⟩)
        · exact Or.inl hheld
        · rcases List.mem_or_eq_of_mem_set hmem with hmem | rfl
          · exact Or.inr ⟨h', hmem, hyields⟩
          · -- The resolved handle yields this transaction only if it did before.
            refine Or.inr ⟨h, List.mem_of_getElem? hh, ?_⟩
            unfold Handle.resolve at hyields
            split at hyields
            · exact absurd (by simpa using hyields) hr
            · exact hyields
      dsimp only
      split
      · exact hset.trans (record _ ⟨rfl, rfl, rfl, rfl⟩)
      · exact hset

theorem release (s : Client) {place : Nat} (hp : place ≠ tx) :
    Untouched tx s (s.release place) := by
  unfold Client.release
  refine ((updateTransaction s hp _).trans (record _ ?_)).trans (record _ ?_)
  · exact ⟨by simp [hp], rfl, rfl, rfl⟩
  · exact ⟨by simp [hp], rfl, rfl, rfl⟩

/-- The requests of an exchange that does not end this transaction. -/
theorem send (s : Client) {place : Nat} {exchange : Exchange}
    (hx : place = tx → exchange ≠ .commit ∧ exchange ≠ .rollback) (statement : String)
    (params : Params) (onRun onPull : Handler) :
    Untouched tx s (s.send place exchange statement params onRun onPull) := by
  have hrun : Foreign tx (.run place exchange statement params) := by
    refine ⟨rfl, ?_, rfl, rfl⟩
    cases exchange with
    | commit => simpa using fun hp => (hx hp).1
    | rollback => simpa using fun hp => (hx hp).2
    | _ => rfl
  have hpull : Foreign tx (.pullAll place exchange) := ⟨rfl, rfl, rfl, rfl⟩
  have hqueued := (record s hrun).trans
    (updateConnection tx _ fun c => c.run place exchange statement onRun)
  exact (hqueued.trans (record _ hpull)).trans
    (updateConnection tx _ fun c => c.pullAll place exchange onPull)

end Untouched

/-! ## Requests and accounts -/

theorem due_append (tx : Nat) (rs rs' : List Request) :
    due tx (rs ++ rs') = due tx rs ++ due tx rs' := by
  simp [due]

/-- The requests of an exchange decide by the handler of the PULL_ALL, or because it ends the
transaction. -/
theorem due_requests (s : Client) (tx place : Nat) (exchange : Exchange) (statement : String)
    {onRun : Handler} (hr : onRun.ownsCompletion = false) (onPull : Handler) :
    due tx (s.requests place exchange statement onRun onPull) =
      if place = tx ∧
          (onPull.ownsCompletion || (exchange == .commit || exchange == .rollback)) = true then
        [(exchange, .pullAll, onPull)] else [] := by
  simp [due, Client.requests, role?, decides, hr, List.filterMap_cons]
  split <;> simp_all

theorem account_eq {tx : Nat} {s s' : Client} {rs rs' : List Request} (h : Untouched tx s s')
    (hd : due tx rs' = due tx rs) :
    Situation.account ⟨rs', s'⟩ tx = Situation.account ⟨rs, s⟩ tx := by
  simp [Situation.account, h.footing?, h.endings, h.exchanges, h.commits, h.rollbacks, hd]

theorem Standing.untouched {tx : Nat} {p : Phase} {s s' : Client} {rs rs' : List Request}
    (hp : Standing tx p ⟨rs, s⟩) (h : Untouched tx s s') (hd : due tx rs' = due tx rs) :
    Standing tx p ⟨rs', s'⟩ :=
  ⟨(account_eq h hd).trans hp.account, fun hh hk => hp.hidden hh (h.kept hk)⟩

end Nonblocking

end ClientTransaction
