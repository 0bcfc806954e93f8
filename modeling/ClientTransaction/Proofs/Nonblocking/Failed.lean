import ClientTransaction.Proofs.Nonblocking.Started
import ClientTransaction.Proofs.Scenario.ExactlyOnce

/-!
# Nonblocking.Failed — what can still commit a transaction that has failed

A transaction that is marked for rollback, or that the server has given up, is not to be committed.
Closing and rolling back see to that. Two things do not: a COMMIT that was sent before the failure
decides when it is answered, and a commit that finds the mark for rollback sends COMMIT all the same.
Nothing else can commit such a transaction.
-/

namespace ClientTransaction.Nonblocking

open Scenario (Step after perform transaction?)

/-! ## What a COMMIT comes to -/

section

variable {s : Client} {tx : Nat}

/-- A transaction is committed exactly by the success of its COMMIT. -/
theorem committed_iff (hs : Sound (.of s)) (tx : Nat) :
    s.final? tx = some .committed ↔ ∃ metadata, s.answers tx .commit = [.success metadata] := by
  rcases hs.phases tx with ⟨p, hp⟩
  have hfinal : s.final? tx = p.account.footing?.bind Footing.final? := hp.final?_eq
  have hanswers : s.answers tx .commit = p.account.commits := congrArg Account.commits hp.account
  rw [hfinal, hanswers]
  cases p with
  | ended c =>
      cases c with
      | lost loss | fellBack loss =>
          cases loss <;> simp [Phase.account, Conclusion.final, Conclusion.commits, Loss.outcome]
      | _ => simp [Phase.account, Conclusion.final, Conclusion.commits]
  | fallingBack loss => cases loss <;> simp [Phase.account, Loss.outcome]
  | _ => simp [Phase.account]

theorem opened_of_committed (hs : Sound (.of s)) (h : s.final? tx = some .committed) :
    .commit ∈ s.terminalExchanges tx := by
  rcases hs.phases tx with ⟨p, hp⟩
  have hfinal : p.account.footing?.bind Footing.final? = some .committed :=
    hp.final?_eq.symm.trans h
  have hexchanges : s.terminalExchanges tx = p.account.exchanges :=
    congrArg Account.exchanges hp.account
  rw [hexchanges]
  cases p with
  | ended c => cases c <;> simp_all [Phase.account, Conclusion.final, Conclusion.exchanges]
  | _ => simp [Phase.account] at hfinal

end

/-! ## Failed transactions -/

/-- Marked for rollback, or given up by the server. -/
def HasFailed (t : Transaction) : Prop :=
  t.state = .markedFailed ∨ t.state = .failed

/-- A failure is not taken back while the transaction is open. -/
theorem HasFailed.grows {t t' : Transaction} (h : HasFailed t) (hg : t.Grows t')
    (ho : t'.isOpen = true) : HasFailed t' := by
  have hclimbs := hg.state
  unfold HasFailed Transaction.isOpen at *
  rcases h with h | h <;> rw [h] at hclimbs <;> cases ht : t'.state <;>
    simp_all [State.Climbs, State.rank, State.isOpen, State.isTerminal]

/-- Only a commit that finds the mark for rollback opens COMMIT for a transaction that has failed. -/
theorem commit_of_course {t : Transaction} (h : HasFailed t) {terminal : Terminal}
    (hcourse : terminal.course t.state = .commit ∨ terminal.course t.state = .commitOrRollback) :
    terminal = .commit ∧ t.state = .markedFailed := by
  rcases h with h | h <;> rw [h] at hcourse ⊢ <;> cases terminal <;> simp_all [Terminal.course]

/-- The steps contain a commit of `tx` that claims it while it is marked for rollback; they start in
`s`. -/
def CommitsMarked (s : Client) (tx : Nat) (steps : List Step) : Prop :=
  ∃ (earlier : List Step) (name : String) (handle : Option String) (rest : List Step)
    (t : Transaction), steps = earlier ++ .commit name handle :: rest ∧
      transaction? (after .nonblocking s earlier) name = some tx ∧
      (after .nonblocking s earlier).transactions[tx]? = some t ∧ t.closing = false ∧
      t.state = .markedFailed

/-- A transaction that has failed after some run is committed exactly if its COMMIT succeeds, and
either was sent before or is sent by a commit that finds the mark for rollback. -/
theorem failed_committed_iff (before : List Step) {s : Client}
    (hs : after .nonblocking {} before = s) (tx : Nat) {t : Transaction}
    (ht : s.transactions[tx]? = some t) (hf : t.state = .markedFailed ∨ t.state = .failed)
    (later : List Step) :
    (after .nonblocking s later).final? tx = some .committed ↔
      (∃ metadata, (after .nonblocking s later).answers tx .commit = [.success metadata]) ∧
        (.commit ∈ s.terminalExchanges tx ∨ CommitsMarked s tx later) := by
  have hsound : Sound (.of s) := hs ▸ sound_after before
  have hlater : Sound (.of (after .nonblocking s later)) :=
    hsound.moves (Scenario.leads_after s later)
  rw [← committed_iff hlater tx, iff_self_and]
  intro hcommitted
  by_cases hopened : .commit ∈ s.terminalExchanges tx
  · exact Or.inl hopened
  refine Or.inr ?_
  rcases exists_opening later hopened (opened_of_committed hlater hcommitted) with
    ⟨earlier, step, rest, rfl, hbefore, hopens⟩
  rcases exists_terminalCall hbefore hopens with
    ⟨name, terminal, handle, t₁, hstep, hname, ht₁, hc₁, hcourse⟩
  rcases (Scenario.grows_after .nonblocking s earlier).transactions tx t ht with ⟨t', ht', hgrows⟩
  cases ht₁.symm.trans ht'
  have hsound₁ : Sound (.of (after .nonblocking s earlier)) :=
    hsound.moves (Scenario.leads_after s earlier)
  have ho : t₁.isOpen = true :=
    isOpen_of_unclaimed hsound₁ (kept_of_transaction? hname) ht₁ hc₁
  rcases commit_of_course (HasFailed.grows hf hgrows ho) hcourse with ⟨rfl, hmarked⟩
  have hcommit : step = .commit name handle := by
    cases step <;> simp [terminalCall?] at hstep ⊢
    exact hstep
  subst hcommit
  exact ⟨earlier, name, handle, rest, t₁, rfl, hname, ht₁, hc₁, hmarked⟩

/-- The server does not understand a statement. -/
def syntaxError : Error :=
  .server "Neo.ClientError.Statement.SyntaxError" "invalid input"

/-- A transaction whose statement has been refused by the server. -/
def marked : List Step :=
  [.begin { tx := "t", config := .settings [], reported := true, bookmarkOf := none
            handle := "b" },
    .take "b", .script ⟨"S", some { outcome := .failure syntaxError }, none⟩, .run "t" "S" [] none]

theorem failed_committed_of_marked :
    (after .nonblocking (after .nonblocking {} marked) [.commit "t" (some "c")]).final? 0 =
        some .committed ↔
      (∃ metadata, (after .nonblocking (after .nonblocking {} marked)
        [.commit "t" (some "c")]).answers 0 .commit = [.success metadata]) ∧
        (.commit ∈ (after .nonblocking {} marked).terminalExchanges 0 ∨
          CommitsMarked (after .nonblocking {} marked) 0 [.commit "t" (some "c")]) :=
  failed_committed_iff marked rfl 0
    (t := { title := "t", reported := true, state := .markedFailed, holdings := [⟨"t", true⟩] })
    rfl (Or.inl rfl) [.commit "t" (some "c")]

/-- What has failed may still be committed. -/
theorem exists_failed_committed :
    ¬ ∀ (before : List Step) (tx : Nat) (t : Transaction) (later : List Step),
      (after .nonblocking {} before).transactions[tx]? = some t →
      (t.state = .markedFailed ∨ t.state = .failed) →
      (after .nonblocking (after .nonblocking {} before) later).final? tx ≠ some .committed := by
  intro hall
  have hnot := hall marked 0
    { title := "t", reported := true, state := .markedFailed, holdings := [⟨"t", true⟩] }
    [.commit "t" (some "c")] rfl (Or.inl rfl)
  have hcommitted : (after .nonblocking (after .nonblocking {} marked)
      [.commit "t" (some "c")]).final? 0 = some .committed := rfl
  exact hnot hcommitted

end ClientTransaction.Nonblocking
