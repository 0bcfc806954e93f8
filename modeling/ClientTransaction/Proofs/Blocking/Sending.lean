import ClientTransaction.Proofs.Blocking.Contract
import ClientTransaction.Proofs.Client.Starts

/-!
# Blocking.Sending — how far a statement gets

A statement that is accepted makes its three calls in turn, so what they answer is a list that stops
at its first error, and no call is tried after that. Whatever has been queued by then stays queued,
but the transaction has failed, so nothing more is sent along with it.
-/

namespace ClientTransaction

/-- A statement takes three calls. -/
theorem Exchange.calls_statement (tx cursor : Nat) (statement : String) (params : Params) :
    (Exchange.statement cursor).calls tx statement params =
      [.run tx (.statement cursor) statement params, .pullAll tx (.statement cursor), .flush tx] :=
  rfl

namespace Blocking

/-- What is called for a statement, one after the other. -/
def statementSteps (tx cursor : Nat) (statement : String) (params : Params) :
    List (Client → Sent) :=
  [run tx (.statement cursor) statement params (.columns cursor),
    pullAll tx (.statement cursor) (.rows cursor), flush tx]

/-- What the calls of a new statement answer, and the client after them. -/
def statementPart (tx : Nat) (statement : String) (params : Params) (s : Client) :
    List (Option Error) × Client :=
  inTurn (statementSteps tx s.cursors.length statement params)
    (s.addCursor { statement := statement, owner := tx })

theorem tries_statement (tx cursor : Nat) (statement : String) (params : Params) :
    List.Forall₂ (Tries tx) (statementSteps tx cursor statement params)
      ((Exchange.statement cursor).calls tx statement params) := by
  rw [Exchange.calls_statement]
  have hrun : Tries tx (run tx (.statement cursor) statement params (.columns cursor))
      (.run tx (.statement cursor) statement params) :=
    ⟨rfl, fun _ hp => ran_run tx _ statement params _ rfl hp⟩
  have hpull : Tries tx (pullAll tx (.statement cursor) (.rows cursor))
      (.pullAll tx (.statement cursor)) :=
    ⟨rfl, fun _ hp => ran_pullAll tx _ _ rfl hp⟩
  have hflush : Tries tx (flush tx) (.flush tx) := ⟨rfl, fun _ hp => ran_flush tx hp⟩
  exact .cons hrun (.cons hpull (.cons hflush .nil))

theorem obeys_statement (tx cursor : Nat) (statement : String) (params : Params) :
    ∀ step ∈ statementSteps tx cursor statement params, Obeys step := by
  have hrun : Obeys (run tx (.statement cursor) statement params (.columns cursor)) :=
    (obeys_call tx .run (by simp)).push
      (f := fun c => c.run tx (.statement cursor) statement (.columns cursor))
      (fun c hp => passive_push hp rfl rfl) fun _ => rfl
  have hpull : Obeys (pullAll tx (.statement cursor) (.rows cursor)) :=
    (obeys_call tx .pullAll (by simp)).push
      (f := fun c => c.pullAll tx (.statement cursor) (.rows cursor))
      (fun c hp => passive_push hp rfl rfl) fun _ => rfl
  have hflush : Obeys (flush tx) := obeys_call tx .flush (by simp)
  simp [statementSteps, hrun, hpull, hflush]

section

variable {s : Client} {tx : Nat} (statement : String) (params : Params)

/-- The calls of a statement may go in every way that three calls can. -/
theorem statement_laidDown (hp : s.connection.Passive) (hlen : 3 ≤ s.connection.verdicts.length) :
    (statementPart tx statement params s).1 =
      upToError ((s.connection.verdicts.take 3).map Verdict.failure) :=
  inTurn_laidDown (obeys_statement tx s.cursors.length statement params) hp hlen

theorem stops_statementPart : StopsAtFirst 3 (statementPart tx statement params s).1 :=
  stopsAtFirst_inTurn (statementSteps tx s.cursors.length statement params) _

/-- A statement that is accepted makes its calls in turn. If one fails, the transaction is given
up. -/
theorem runStatement_eq (ha : s.transactions[tx]?.bind Transaction.refusal? = none)
    (name : Option String) :
    runStatement s tx statement params name =
      (firstError (statementPart tx statement params s).1,
        if firstError (statementPart tx statement params s).1 = none then
          (statementPart tx statement params s).2.updateCursor s.cursors.length
            fun c => { c with name := name }
        else (statementPart tx statement params s).2.updateTransaction tx
          Transaction.markFailed) := by
  unfold runStatement statementPart statementSteps
  simp only [ha]
  generalize s.addCursor { statement := statement, owner := tx } = s₀
  rcases hrun : run tx (.statement s.cursors.length) statement params
    (.columns s.cursors.length) s₀ with ⟨failure, s₁⟩
  cases failure with
  | some e => simp [inTurn, hrun, Sent.andThen, firstError]
  | none =>
      rcases hpull : pullAll tx (.statement s.cursors.length) (.rows s.cursors.length) s₁ with
        ⟨failure, s₂⟩
      cases failure with
      | some e => simp [inTurn, hrun, hpull, Sent.andThen, firstError]
      | none =>
          rcases hflush : flush tx s₂ with ⟨failure, s₃⟩
          cases failure with
          | some e => simp [inTurn, hrun, hpull, hflush, Sent.andThen, firstError]
          | none => simp [inTurn, hrun, hpull, hflush, Sent.andThen, firstError]

variable (tx) in
/-- Of the calls of a statement just those are tried that answer. -/
theorem made_statementPart (hp : s.connection.Passive) :
    ∃ events, events.filter (fun e => !e.isRefusal) =
        ((Exchange.statement s.cursors.length).calls tx statement params).take
          (statementPart tx statement params s).1.length ∧
      Made tx events s (statementPart tx statement params s).2 := by
  have hadd : Made tx [] s (s.addCursor { statement := statement, owner := tx }) :=
    .of_calm tx hp (.addCursor s rfl)
  rcases made_inTurn (tries_statement tx s.cursors.length statement params) hadd.passive with
    ⟨events, hevents, hmade⟩
  exact ⟨events, hevents, hadd.trans hmade⟩

/-- The transaction that sends a statement is the only one to try a call. -/
theorem attempts_runStatement (hp : s.connection.Passive)
    (ha : s.transactions[tx]?.bind Transaction.refusal? = none) (name : Option String)
    (place : Nat) :
    (runStatement s tx statement params name).2.attempts place = s.attempts place ++
      if place = tx then
        ((Exchange.statement s.cursors.length).calls tx statement params).take
          (statementPart tx statement params s).1.length
      else [] := by
  rcases made_statementPart tx statement params hp with ⟨events, hevents, hmade⟩
  have hcalls : (runStatement s tx statement params name).2.calls place =
      (statementPart tx statement params s).2.calls place := by
    rw [runStatement_eq statement params ha]
    dsimp only
    split <;> rfl
  unfold Client.attempts
  rw [hcalls, hmade.calls, List.filter_append, ← hevents]
  split <;> rfl

variable (tx) in
/-- Whether its calls succeed or not, a statement neither claims nor ends its transaction. -/
theorem footing_statementPart (hp : s.connection.Passive) (place : Nat) :
    (statementPart tx statement params s).2.footing? place = s.footing? place := by
  rcases made_statementPart tx statement params hp with ⟨events, -, hmade⟩
  exact hmade.footing place

/-- If a call fails, the transaction has failed. -/
theorem failed_of_unsent (hp : s.connection.Passive) {t : Transaction}
    (ht : s.transactions[tx]? = some t) (ho : t.isOpen = true) (hr : t.refusal? = none)
    (name : Option String) (hfailed : firstError (statementPart tx statement params s).1 ≠ none) :
    ∃ t' : Transaction,
      (runStatement s tx statement params name).2.transactions[tx]? = some t' ∧
        t'.state = .failed := by
  have ha : s.transactions[tx]?.bind Transaction.refusal? = none := by
    rw [ht, Option.bind_some, hr]
  have hfoot := (footing_statementPart tx statement params hp tx).trans
    (footing?_of_getElem? ht)
  rcases Option.map_eq_some_iff.1 hfoot with ⟨t₁, ht₁, hsame⟩
  -- The transaction is still open when it is marked.
  have hopen : t₁.state.isTerminal = false := by
    have ho₁ : t₁.isOpen = true := by
      rw [t₁.isOpen_iff_footing, hsame]
      exact t.isOpen_iff_footing.1 ho
    simpa [Transaction.isOpen, State.isOpen] using ho₁
  refine ⟨t₁.markFailed, ?_, by simp [Transaction.markFailed, State.markFailed, hopen]⟩
  rw [runStatement_eq statement params ha]
  simp [hfailed, ht₁]

end

end Blocking

end ClientTransaction
