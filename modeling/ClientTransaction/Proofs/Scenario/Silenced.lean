import ClientTransaction.Proofs.Blocking.Handback
import ClientTransaction.Proofs.Nonblocking.Silenced

/-!
# Scenario.Silenced — a transaction that was given up

Once the server has given a transaction up, no call and no reply has a request sent for it, and
whoever ends it does so without the server. The one exception is a COMMIT that was under way by then:
it was sent by a close that does not wait, and if it is lost, a ROLLBACK follows it.
-/

namespace ClientTransaction

/-! ## The end -/

section

variable {s : Client} {tx : Nat} {t : Transaction}

theorem history_release (ht : s.transactions[tx]? = some t) :
    (s.release tx).history = s.history ++ [.release tx, .closed tx t.session?] := by
  rw [(Client.frame_release _ _).2.2.2.2, ht]
  rfl

/-- An open transaction that is released is rolled back. -/
theorem final?_release (ht : s.transactions[tx]? = some t) (ho : t.isOpen = true) :
    (s.release tx).final? tx = some .rolledBack := by
  have hfinal : t.footing.final? = none := t.isOpen_iff_footing.1 ho
  rw [Client.final?_eq, Client.footing?_release]
  simp [Client.footing?, ht, hfinal]

end

/-! ## Calls that wait -/

namespace Blocking

open Scenario

section

variable {s : Client} {tx : Nat} {t : Transaction}

/-- Replies that come during a call ask for no rollback, so no COMMIT falls back on one. -/
theorem mayFallBack_eq_false (h : s.connection.Passive) (tx : Nat) : s.mayFallBack tx = false := by
  apply List.any_eq_false.2
  intro r hr hfalls
  have hpassive := h r hr
  unfold Request.fallsBack at hfalls
  split at hfalls
  · rename_i done hhandler
    simp [hhandler, Handler.ownsCompletion] at hpassive
  · simp at hfalls

theorem sentFor_perform (hs : Settled s) (ht : s.transactions[tx]? = some t)
    (hspent : t.IsSpent) (step : Step) :
    (perform .blocking s step).2.sentFor tx = s.sentFor tx := by
  rcases (turn_perform hs.handles step).calls_of_spent hs ht hspent with ⟨new, hcalls, hall, -⟩
  have hnone : new.filterMap Event.request? = [] := by
    apply List.filterMap_eq_nil_iff.2
    intro e he
    rcases hall e he with rfl | rfl <;> rfl
  rw [Client.sentFor, hcalls, List.filterMap_append, hnone, List.append_nil]
  rfl

/-- Nothing is sent for a transaction that was given up, or has ended. -/
theorem sentFor_after (hs : Settled s) (ht : s.transactions[tx]? = some t) (hspent : t.IsSpent)
    (later : List Step) : (after .blocking s later).sentFor tx = s.sentFor tx := by
  induction later generalizing s t with
  | nil => rfl
  | cons step rest ih =>
      rcases (grows_perform .blocking s step).transactions tx t ht with ⟨t', ht', hgrows⟩
      exact (ih (settled_perform hs step) ht' (hgrows.isSpent hspent)).trans
        (sentFor_perform hs ht hspent step)

/-- Closing a transaction that was given up is done without the server. -/
theorem close_of_failed (ht : s.transactions[tx]? = some t) (hc : t.closing = false)
    (hf : t.state = .failed) :
    (close s tx).2.history = s.history ++ [.release tx, .closed tx t.session?] ∧
      (close s tx).2.final? tx = some .rolledBack := by
  have hclaimed : (s.updateTransaction tx Transaction.claim).transactions[tx]? = some t.claim := by
    simp [ht]
  have ho : t.claim.isOpen = true := by
    simp [Transaction.isOpen, Transaction.claim, hf, State.isOpen, State.isTerminal]
  have hclose : (close s tx).2 = (s.updateTransaction tx Transaction.claim).release tx := by
    rw [close_of_unclaimed ht hc, hf]
    unfold conclude
    split <;> rfl
  rw [hclose]
  exact ⟨(history_release hclaimed).trans rfl, final?_release hclaimed ho⟩

/-- So is every way of ending it: no mark counts any more. -/
theorem perform_of_failed {step : Step} {name : String} {terminal : Nonblocking.Terminal}
    {handle : Option String} (hstep : Nonblocking.terminalCall? step = some (name, terminal, handle))
    (hname : transaction? s name = some tx) (ht : s.transactions[tx]? = some t)
    (hc : t.closing = false) (hf : t.state = .failed) :
    (perform .blocking s step).2.history = s.history ++ [.release tx, .closed tx t.session?] ∧
      (perform .blocking s step).2.final? tx = some .rolledBack := by
  have hperform : (perform .blocking s step).2 =
      (terminate .blocking s name terminal handle).2 := by
    cases step <;> simp [Nonblocking.terminalCall?] at hstep <;> rcases hstep with ⟨rfl, rfl, rfl⟩ <;>
      rfl
  rw [hperform]
  cases terminal with
  | close => simpa [terminate, onTransaction, hname, ht] using close_of_failed ht hc hf
  | commit =>
      have hmarked : ((s.updateTransaction tx (Transaction.letGo name)).updateTransaction tx
          Transaction.markSuccess).transactions[tx]? = some (t.letGo name).markSuccess := by
        simp [ht]
      have hsession : (t.letGo name).markSuccess.session? = t.session? := rfl
      have hclosed := close_of_failed hmarked hc
        (by simp [Transaction.markSuccess, Transaction.letGo, hf, State.markSuccess])
      rw [hsession] at hclosed
      simpa [terminate, onTransaction, hname, ht, commit] using hclosed
  | rollback =>
      have hmarked : ((s.updateTransaction tx (Transaction.letGo name)).updateTransaction tx
          Transaction.markFailure).transactions[tx]? = some (t.letGo name).markFailure := by
        simp [ht]
      have hsession : (t.letGo name).markFailure.session? = t.session? := rfl
      have hclosed := close_of_failed hmarked hc
        (by simp [Transaction.markFailure, Transaction.letGo, hf, State.markFailure])
      rw [hsession] at hclosed
      simpa [terminate, onTransaction, hname, ht, rollback] using hclosed

end

end Blocking

/-! ## Calls that do not wait -/

namespace Nonblocking

open Scenario

section

variable {s : Client} {tx : Nat} {t : Transaction}

/-- Only a close that has claimed the transaction sends a COMMIT that falls back. -/
theorem mayFallBack_eq_false (hs : Sound (.of s)) (ht : s.transactions[tx]? = some t)
    (hc : t.closing = false) : s.mayFallBack tx = false := by
  rcases hs.phases tx with ⟨p, hp⟩
  have hfoot : s.footing? tx = p.account.footing? := congrArg Account.footing? hp.account
  rw [mayFallBack_eq hp]
  cases p with
  | committing fallback l =>
      have hclaimed : t.footing.claimed = false := hc
      simp only [Client.footing?, ht, Option.map_some, Phase.account, Option.some.injEq] at hfoot
      simp [hfoot] at hclaimed
  | _ => rfl

/-- Whoever ends a transaction that was given up ends it at once. -/
theorem perform_of_failed {step : Step} {name : String} {terminal : Terminal}
    {handle : Option String} (hstep : terminalCall? step = some (name, terminal, handle))
    (hname : transaction? s name = some tx) (ht : s.transactions[tx]? = some t)
    (hc : t.closing = false) (hf : t.state = .failed) :
    (perform .nonblocking s step).2.history = s.history ++ [.release tx, .closed tx t.session?] ∧
      (perform .nonblocking s step).2.final? tx = some .rolledBack := by
  have hcourse : ∃ result, terminal.course t.state = .finish result := by
    rw [hf]
    cases terminal <;> exact ⟨_, rfl⟩
  rcases hcourse with ⟨result, hcourse⟩
  have hclaimed : (claimed s tx handle).transactions[tx]? = some t.claim := by
    simp [claimed, ht]
  have ho : t.claim.isOpen = true := by
    simp [Transaction.isOpen, Transaction.claim, hf, State.isOpen, State.isTerminal]
  have hend : (perform .nonblocking s step).2 =
      tell ((claimed s tx handle).release tx) result (.handle s.handles.length) := by
    rw [perform_terminalCall hstep hname ht, terminate_of_unclaimed ht hc, hcourse]
    simp [sendTerminal, fire_ending, Client.follow]
  -- Nobody waits for the handle yet.
  have hsilent : (tell ((claimed s tx handle).release tx) result
      (.handle s.handles.length)).history = ((claimed s tx handle).release tx).history := by
    have hfresh : ((claimed s tx handle).release tx).handles[s.handles.length]? =
        some (.fresh handle) := by
      simp [claimed, Client.release]
    simp only [tell, Client.resolve, hfresh]
    rfl
  rw [hend]
  refine ⟨?_, ?_⟩
  · rw [hsilent, history_release hclaimed]
    rfl
  · rw [← final?_release hclaimed ho]
    exact congrArg (fun ts : List Transaction => ts[tx]?.bind Transaction.final?)
      (transactions_resolve _ _ _)

end

end Nonblocking

namespace Scenario

/-! ## Both -/

/-- After every run that ends with a transaction given up, and however it goes on, nothing is sent for
the transaction but a ROLLBACK, and that exactly if a COMMIT that falls back on it was under way and
is lost. Such a COMMIT there is only if calls do not wait and a close has claimed the transaction.
Whoever ends one that nobody has claimed rolls it back without the server. -/
theorem silenced (flavor : Flavor) (before : List Step) {s : Client}
    (hs : after flavor {} before = s) {tx : Nat} {t : Transaction}
    (ht : s.transactions[tx]? = some t) (hf : t.state = .failed) :
    (∀ later : List Step, (after flavor s later).sentFor tx = s.sentFor tx ++
      if s.mayFallBack tx && ((after flavor s later).answers tx .commit).any Outcome.isLoss
      then rollbackRequests tx else []) ∧
    (flavor = .blocking ∨ t.closing = false → s.mayFallBack tx = false) ∧
    ∀ (step : Step) (name : String) (terminal : Nonblocking.Terminal) (handle : Option String),
      Nonblocking.terminalCall? step = some (name, terminal, handle) →
      transaction? s name = some tx → t.closing = false →
      (perform flavor s step).2.history = s.history ++ [.release tx, .closed tx t.session?] ∧
        (perform flavor s step).2.final? tx = some .rolledBack := by
  have hspent : t.IsSpent := Or.inl hf
  cases flavor with
  | blocking =>
      have hsettled : Blocking.Settled s := hs ▸ settled_after Blocking.settled_start before
      have hnone := Blocking.mayFallBack_eq_false hsettled.passive tx
      refine ⟨fun later => ?_, fun _ => hnone, fun step name terminal handle hstep hname hc => ?_⟩
      · simpa [hnone] using Blocking.sentFor_after hsettled ht hspent later
      · exact Blocking.perform_of_failed hstep hname ht hc hf
  | nonblocking =>
      have hsound : Nonblocking.Sound (.of s) := hs ▸ Nonblocking.sound_after before
      refine ⟨Nonblocking.sentFor_after before hs ht hspent, ?_, ?_⟩
      · rintro (hflavor | hc)
        · simp at hflavor
        · exact Nonblocking.mayFallBack_eq_false hsound ht hc
      · intro step name terminal handle hstep hname hc
        exact Nonblocking.perform_of_failed hstep hname ht hc hf

/-- The connection breaks while a statement runs. -/
def broken : Script :=
  ⟨"S", some { outcome := .failure (.connection "lost") }, none⟩

/-- A close has sent COMMIT, and then a reply tells that the connection was lost. -/
def overtaken : List Step :=
  [.hold true,
    .begin { tx := "t", config := .settings [], reported := true, bookmarkOf := none
             handle := "b" },
    .take "b", .script broken, .run "t" "S" [] none, .success "t", .close "t" none,
    .deliver (some 3)]

/-- Then COMMIT itself is given up. -/
theorem silenced_of_overtaken :
    (after .nonblocking (after .nonblocking {} overtaken) [.dropQueue]).sentFor 0 =
      (after .nonblocking {} overtaken).sentFor 0 ++ rollbackRequests 0 := by
  have hfailed : (after .nonblocking {} overtaken).transactions[0]? =
      some { title := "t", reported := true, state := .failed, closing := true,
             holdings := [⟨"t", true⟩] } := rfl
  rw [(silenced .nonblocking overtaken rfl hfailed rfl).1 [.dropQueue]]
  rfl

/-- The same, but COMMIT is waited for, and the reply comes meanwhile. -/
def overheard : List Step :=
  Blocking.begun ++ [.script broken, .run "t" "S" [] none, .success "t", .close "t" none]

/-- A transaction that was given up may still send a request: one whose calls do not wait, in a later
step, and one whose calls wait, in the call that learns of it. -/
theorem exists_request_after_failed :
    (¬ ∀ (before later : List Step) (tx : Nat) (t : Transaction),
      (after .nonblocking {} before).transactions[tx]? = some t → t.state = .failed →
      (after .nonblocking (after .nonblocking {} before) later).sentFor tx =
        (after .nonblocking {} before).sentFor tx) ∧
    ¬ ∀ (steps : List Step) (past future : List Event) (tx cursor : Nat) (e : Error),
      (after .blocking {} steps).history = past ++ .statementFailed tx cursor e :: future →
      e.isRecoverable = false → .released ∉ past.filterMap (Event.ending? tx) →
      (future.filterMap (Event.call? tx)).filterMap Event.request? = [] := by
  constructor
  · intro hall
    have hsame := hall overtaken [.dropQueue] 0
      { title := "t", reported := true, state := .failed, closing := true,
        holdings := [⟨"t", true⟩] } rfl rfl
    have hrequests : (after .nonblocking (after .nonblocking {} overtaken)
        [.dropQueue]).sentFor 0 = (after .nonblocking {} overtaken).sentFor 0 ++
          rollbackRequests 0 := rfl
    rw [hrequests] at hsame
    simp [rollbackRequests] at hsame
  · intro hall
    have hnone := hall overheard ((after .blocking {} overheard).history.take 11)
      ((after .blocking {} overheard).history.drop 12) 0 0 (.connection "lost") rfl rfl (by decide)
    have hrequests : (((after .blocking {} overheard).history.drop 12).filterMap
        (Event.call? 0)).filterMap Event.request? = rollbackRequests 0 := rfl
    rw [hrequests] at hnone
    simp [rollbackRequests] at hnone

end Scenario

end ClientTransaction
