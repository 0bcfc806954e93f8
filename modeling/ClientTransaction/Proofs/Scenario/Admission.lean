import ClientTransaction.Proofs.Blocking.Sending
import ClientTransaction.Proofs.Nonblocking.Sending
import ClientTransaction.Proofs.Scenario.Marks

/-!
# Scenario.Admission — a statement is sent, or nothing has happened

A transaction accepts a statement as long as nobody has claimed it and nothing has been said against
it. What it refuses changes nothing. What it accepts it sends with three calls; where these can
fail, the first failure is answered and leaves a transaction that accepts nothing more.
-/

namespace ClientTransaction

namespace Transaction

/-- No terminal operation has claimed the transaction, and it is not marked for rollback. -/
def Admits (t : Transaction) : Prop :=
  t.closing = false ∧ (t.state = .active ∨ t.state = .markedSuccess)

instance (t : Transaction) : Decidable t.Admits :=
  inferInstanceAs (Decidable (_ ∧ _))

variable {t : Transaction}

theorem refusal?_eq_none_iff : t.refusal? = none ↔ t.Admits := by
  unfold refusal? Admits
  cases hc : t.closing <;> cases hs : t.state <;> simp

theorem Admits.isOpen (h : t.Admits) : t.isOpen = true := by
  unfold Transaction.isOpen
  rcases h.2 with hs | hs <;> rw [hs] <;> rfl

theorem Admits.footing (h : t.Admits) : t.footing = ⟨false, none⟩ := by
  have hfinal := t.isOpen_iff_footing.1 h.isOpen
  rw [← h.1, ← hfinal]
  rfl

/-- A statement is refused as a mistake in the use of the transaction. -/
theorem exists_usage (h : ¬ t.Admits) : ∃ message, t.refusal? = some (.usage message) := by
  rw [← refusal?_eq_none_iff] at h
  unfold refusal? at h ⊢
  split
  · exact ⟨_, rfl⟩
  · cases hs : t.state <;> simp_all [Error.statementAfterCommit, Error.statementAfterFailure]

end Transaction

namespace Scenario

open Blocking (Settled StopsAtFirst upToError firstError statementPart statement_laidDown
  stops_statementPart runStatement_eq attempts_runStatement failed_of_unsent
  footing_statementPart)

/-! ## Steps -/

section

variable (flavor : Flavor) {s : Client} {name : String} {tx : Nat}
  (hname : transaction? s name = some tx) {t : Transaction} (ht : s.transactions[tx]? = some t)

include hname ht

theorem perform_run_eq (statement : String) (params : Params) (result : Option String) :
    perform flavor s (.run name statement params result) =
      run flavor s tx statement params result := by
  simp [perform, onTransaction, hname, ht]

theorem perform_run_of_refusal {e : Error} (hr : t.refusal? = some e) (statement : String)
    (params : Params) (result : Option String) :
    perform flavor s (.run name statement params result) = (.failed e, s) := by
  rw [perform_run_eq flavor hname ht]
  cases flavor <;>
    simp [run, Blocking.runStatement, Nonblocking.runStatement, ht, hr, Answer.ofFailure]

end

/-- A transaction that the server has given up accepts no statement, whatever happens to it. -/
theorem refused_after (flavor : Flavor) {s : Client} {tx : Nat} {t : Transaction}
    (ht : s.transactions[tx]? = some t) (hspent : t.IsSpent) (later : List Step) {name : String}
    (hname : transaction? (after flavor s later) name = some tx) (statement : String)
    (params : Params) (result : Option String) :
    ∃ message, perform flavor (after flavor s later) (.run name statement params result) =
      (.failed (.usage message), after flavor s later) := by
  rcases (grows_after flavor s later).transactions tx t ht with ⟨t', ht', hgrows⟩
  have hrefused : ¬ t'.Admits := fun hadmits =>
    (hgrows.isSpent hspent).refused (Transaction.refusal?_eq_none_iff.2 hadmits)
  rcases t'.exists_usage hrefused with ⟨message, hr⟩
  exact ⟨message, perform_run_of_refusal flavor hname ht' hr statement params result⟩

/-! ## States -/

theorem firstFailure?_grows {s s' : Client} (h : s.Grows s') {cursor : Nat}
    {failure : Nat × Error} (hf : s.firstFailure? cursor = some failure) :
    s'.firstFailure? cursor = some failure := by
  have hreceipts : s.receipts <+: s'.receipts := h.history.filterMap _
  rcases hreceipts.filter (fun r : Receipt => decide (r.exchange = .statement cursor)) with
    ⟨more, hmore⟩
  unfold Client.firstFailure? Client.replies at hf ⊢
  rw [← hmore, List.findSome?_append, hf]
  rfl

section

variable {flavor : Flavor} (earlier : List Step) {s : Client}
  (hs : after flavor {} earlier = s) {step : Step} (hsaid : deeds flavor s step = [])

include hs

omit hsaid in
theorem filed_perform (step : Step) : Filed flavor (.of (perform flavor s step).2) := by
  have hafter := filed_after flavor (earlier ++ [step])
  rwa [after_append, hs] at hafter

include hsaid

/-- By a step that says nothing the failures are all that is added to the marks. -/
theorem marksOf_of_unsaid (tx : Nat) (m : Mark) :
    m ∈ marksOf flavor (earlier ++ [step]) tx ↔
      m ∈ marksOf flavor earlier tx ∨ m ∈ failureMarks (perform flavor s step).2 tx := by
  have hfiled : Filed flavor (.of s) := hs ▸ filed_after flavor earlier
  have hfiled' := filed_perform earlier hs step
  -- No failure is forgotten.
  have hgrows : m ∈ failureMarks s tx → m ∈ failureMarks (perform flavor s step).2 tx := by
    intro hm
    rcases hfiled.mem_failureMarks.1 hm with ⟨cursor, e, hfirst, rfl⟩
    exact hfiled'.mem_failureMarks.2
      ⟨cursor, e, firstFailure?_grows (grows_perform flavor s step) hfirst, rfl⟩
  have hafter : after flavor {} (earlier ++ [step]) = (perform flavor s step).2 := by
    rw [after_append, hs]
    rfl
  unfold marksOf
  rw [hafter, deedsOf_concat, hs, hsaid, List.append_nil, List.mem_append, List.mem_append]
  tauto

/-- Where the application says nothing, only failures move an open transaction, and only as replies
report them. -/
theorem state_of_unsaid {tx : Nat} {t t' : Transaction} (ht : s.transactions[tx]? = some t)
    (ho : t.isOpen = true) (ht' : (perform flavor s step).2.transactions[tx]? = some t')
    (ho' : t'.isOpen = true) :
    t'.state = t.state.raiseAll (failureMarks (perform flavor s step).2 tx) ∧
      ((perform flavor s step).2.receipts = s.receipts → t'.state = t.state) := by
  have hbefore : t.state = State.joined (marksOf flavor earlier tx) :=
    state_of_open (hs ▸ ht) ho
  have hafter : t'.state = State.joined (marksOf flavor (earlier ++ [step]) tx) := by
    refine state_of_open ?_ ho'
    rw [after_append, hs]
    exact ht'
  have hmarks := marksOf_of_unsaid earlier hs hsaid tx
  refine ⟨?_, fun hsame => ?_⟩
  · rw [hafter, hbefore]
    exact State.raiseAll_of_union hmarks .active
  · -- Without a reply there are no new failures.
    have hold : ∀ m, m ∈ failureMarks (perform flavor s step).2 tx →
        m ∈ marksOf flavor earlier tx := by
      intro m hm
      rcases (filed_perform earlier hs step).mem_failureMarks.1 hm with ⟨cursor, e, hfirst, rfl⟩
      have hbefore : s.firstFailure? cursor = some (tx, e) := by
        unfold Client.firstFailure? Client.replies at hfirst ⊢
        rwa [← hsame]
      have hfiled : Filed flavor (.of s) := hs ▸ filed_after flavor earlier
      unfold marksOf
      rw [hs]
      exact List.mem_append_right _ (hfiled.mem_failureMarks.2 ⟨cursor, e, hbefore, rfl⟩)
    rw [hafter, hbefore]
    exact State.raiseAll_eq_of_mem_iff (fun m => (hmarks m).trans (or_iff_left_of_imp (hold m))) _

end

/-! ## Admission -/

/-- A statement does not touch the state of its transaction: only failures do that replies report in
the meantime. -/
def LeftAlone (s s' : Client) (tx : Nat) (t : Transaction) : Prop :=
  ∃ t' : Transaction, s'.transactions[tx]? = some t' ∧ t'.closing = false ∧
    t'.state = t.state.raiseAll (failureMarks s' tx) ∧
    (s'.receipts = s.receipts → t'.state = t.state)

/-- A statement whose calls cannot fail has been sent. -/
structure Queued (s : Client) (tx : Nat) (t : Transaction) (statement : String) (params : Params)
    (p : Answer × Client) : Prop where
  answer : p.1 = .done
  /-- It is sent before anything else happens. -/
  atOnce : s.history ++ (Exchange.statement s.cursors.length).calls tx statement params <+:
    p.2.history
  calls : p.2.calls tx =
    s.calls tx ++ (Exchange.statement s.cursors.length).calls tx statement params
  leftAlone : LeftAlone s p.2 tx t

/-- A statement whose calls can fail has been sent as far as they went. -/
structure Tried (s : Client) (tx : Nat) (t : Transaction) (statement : String) (params : Params)
    (p : Answer × Client) : Prop where
  /-- The calls go through, or the last one that is made fails. -/
  stops : StopsAtFirst 3 (statementPart tx statement params s).1
  laidDown : 3 ≤ s.connection.verdicts.length → (statementPart tx statement params s).1 =
    upToError ((s.connection.verdicts.take 3).map Verdict.failure)
  /-- Just the calls that have answered are tried, in order, and none for another transaction. -/
  attempts : ∀ place, p.2.attempts place = s.attempts place ++
    if place = tx then
      ((Exchange.statement s.cursors.length).calls tx statement params).take
        (statementPart tx statement params s).1.length
    else []
  answer : p.1 = .ofFailure .done (firstError (statementPart tx statement params s).1)
  /-- After a failure no statement is accepted any more. -/
  failed : firstError (statementPart tx statement params s).1 ≠ none →
    (∃ t' : Transaction, p.2.transactions[tx]? = some t' ∧ t'.state = .failed) ∧
      ∀ (later : List Step) (name statement : String) (params : Params) (result : Option String),
        transaction? (after .blocking p.2 later) name = some tx →
        ∃ message, perform .blocking (after .blocking p.2 later)
            (.run name statement params result) =
          (.failed (.usage message), after .blocking p.2 later)
  leftAlone : firstError (statementPart tx statement params s).1 = none → LeftAlone s p.2 tx t

/-- A statement that is not accepted has changed nothing; one that is accepted has been sent. -/
structure Admission (flavor : Flavor) (s : Client) (tx : Nat) (t : Transaction) (statement : String)
    (params : Params) (p : Answer × Client) : Prop where
  accepted_iff : p.2.attempts tx ≠ s.attempts tx ↔ t.Admits
  refused : ¬ t.Admits → ∃ message, p = (.failed (.usage message), s)
  queued : flavor = .nonblocking → t.Admits → Queued s tx t statement params p
  tried : flavor = .blocking → t.Admits → Tried s tx t statement params p

section

variable (earlier : List Step) {s : Client} {name : String} {tx : Nat}
  (hname : transaction? s name = some tx) {t : Transaction} (ht : s.transactions[tx]? = some t)
  (hadmits : t.Admits) (statement : String) (params : Params) (result : Option String)

theorem leftAlone_of_footing {flavor : Flavor} (hs : after flavor {} earlier = s) {step : Step}
    (hsaid : deeds flavor s step = []) {tx : Nat} {t : Transaction}
    (ht : s.transactions[tx]? = some t) (ho : t.isOpen = true)
    (hfoot : (perform flavor s step).2.footing? tx = some ⟨false, none⟩) :
    LeftAlone s (perform flavor s step).2 tx t := by
  rcases Option.map_eq_some_iff.1 hfoot with ⟨t', ht', hf⟩
  have ho' : t'.isOpen = true := t'.isOpen_iff_footing.2 (congrArg Footing.final? hf)
  rcases state_of_unsaid earlier hs hsaid ht ho ht' ho' with ⟨hraised, hsame⟩
  exact ⟨t', ht', congrArg Footing.claimed hf, hraised, hsame⟩

/-- A statement that goes through says nothing of its transaction. -/
theorem deeds_run_of_done {flavor : Flavor}
    (hdone : (perform flavor s (.run name statement params result)).1 = .done) :
    deeds flavor s (.run name statement params result) = [] := by
  simp [deeds, unsent, hdone]

include hname ht hadmits

theorem queued_of_admits (hs : after .nonblocking {} earlier = s) :
    Queued s tx t statement params
      (perform .nonblocking s (.run name statement params result)) := by
  have hr := Transaction.refusal?_eq_none_iff.2 hadmits
  have ha : s.transactions[tx]?.bind Transaction.refusal? = none := by
    rw [ht, Option.bind_some, hr]
  have hperform := perform_run_eq .nonblocking hname ht statement params result
  have hanswer : (perform .nonblocking s (.run name statement params result)).1 = .done := by
    rw [hperform]
    simp [run, Nonblocking.runStatement, ha, Answer.ofFailure]
  have hrunning := Nonblocking.running_perform_run earlier hs hname ht hr statement params result
  have hfoot : (perform .nonblocking s (.run name statement params result)).2.footing? tx =
      some ⟨false, none⟩ := congrArg Nonblocking.Account.footing? hrunning.account
  refine ⟨hanswer, ?_, Nonblocking.calls_perform_run earlier hs hname ht hr statement params result,
    leftAlone_of_footing earlier hs (deeds_run_of_done statement params result hanswer) ht
      hadmits.isOpen hfoot⟩
  rcases @Nonblocking.starts_runStatement (fun _ _ => True) (fun _ => trivial) s tx ha statement
    params result with ⟨s₁, hfirst, blocks, hblocks, -⟩
  rw [hperform, ← hfirst]
  exact ⟨_, hblocks.symm⟩

theorem tried_of_admits (hs : after .blocking {} earlier = s) :
    Tried s tx t statement params (perform .blocking s (.run name statement params result)) := by
  have hsettled : Settled s := hs ▸ settled_after Blocking.settled_start earlier
  have hp := hsettled.passive
  have hr := Transaction.refusal?_eq_none_iff.2 hadmits
  have ha : s.transactions[tx]?.bind Transaction.refusal? = none := by
    rw [ht, Option.bind_some, hr]
  have hperform := perform_run_eq .blocking hname ht statement params result
  have hrun := runStatement_eq statement params ha result
  have hanswer : (perform .blocking s (.run name statement params result)).1 =
      .ofFailure .done (firstError (statementPart tx statement params s).1) := by
    rw [hperform]
    simp [run, hrun]
  have hclient : (perform .blocking s (.run name statement params result)).2 =
      (Blocking.runStatement s tx statement params result).2 := by
    rw [hperform]
    rfl
  refine ⟨stops_statementPart statement params, statement_laidDown statement params hp, ?_, hanswer,
    ?_, ?_⟩
  · intro place
    rw [hclient]
    exact attempts_runStatement statement params hp ha result place
  · intro hfailed
    rcases failed_of_unsent statement params hp ht hadmits.isOpen hr result hfailed with
      ⟨t', ht', hstate⟩
    rw [← hclient] at ht'
    exact ⟨⟨t', ht', hstate⟩, fun later name statement params result hlater =>
      refused_after .blocking ht' (Or.inl hstate) later hlater statement params result⟩
  · intro hnone
    have hdone : (perform .blocking s (.run name statement params result)).1 = .done := by
      rw [hanswer, hnone]
      rfl
    refine leftAlone_of_footing earlier hs (deeds_run_of_done statement params result hdone) ht
      hadmits.isOpen ?_
    rw [hclient, hrun]
    dsimp only
    rw [if_pos hnone, ← hadmits.footing, ← Blocking.footing?_of_getElem? ht]
    exact footing_statementPart tx statement params hp tx

end

/-- What is accepted has been tried. -/
theorem attempts_of_admits {flavor : Flavor} {s : Client} {tx : Nat} {t : Transaction}
    {statement : String} {params : Params} {p : Answer × Client}
    (hqueued : flavor = .nonblocking → Queued s tx t statement params p)
    (htried : flavor = .blocking → Tried s tx t statement params p) :
    p.2.attempts tx ≠ s.attempts tx := by
  cases flavor with
  | nonblocking =>
      have hcalls := (hqueued rfl).calls
      unfold Client.attempts
      rw [hcalls, List.filter_append, Exchange.calls_statement]
      simp [Event.isRefusal]
  | blocking =>
      have hmade := List.length_pos_iff.2 (htried rfl).stops.ne_nil
      have hattempts := (htried rfl).attempts tx
      rw [if_pos rfl, Exchange.calls_statement] at hattempts
      rw [hattempts]
      -- The RUN at least has been tried.
      cases hlength : (statementPart tx statement params s).1.length with
      | zero => omega
      | succ count => simp

/-- In every run a statement is accepted just if nobody has claimed its transaction and that is
active or marked for commit. Refused, it is a mistake that changes nothing; accepted, it is sent
with its three calls as far as these go. -/
theorem admission_atomic (flavor : Flavor) (earlier : List Step) {s : Client}
    (hs : after flavor {} earlier = s) {name : String} {tx : Nat}
    (hname : transaction? s name = some tx) {t : Transaction} (ht : s.transactions[tx]? = some t)
    (statement : String) (params : Params) (result : Option String) :
    Admission flavor s tx t statement params
      (perform flavor s (.run name statement params result)) := by
  have hrefused : ¬ t.Admits → ∃ message,
      perform flavor s (.run name statement params result) = (.failed (.usage message), s) := by
    intro hnot
    rcases t.exists_usage hnot with ⟨message, hr⟩
    exact ⟨message, perform_run_of_refusal flavor hname ht hr statement params result⟩
  have hqueued : flavor = .nonblocking → t.Admits → Queued s tx t statement params
      (perform flavor s (.run name statement params result)) := by
    rintro rfl hadmits
    exact queued_of_admits earlier hname ht hadmits statement params result hs
  have htried : flavor = .blocking → t.Admits → Tried s tx t statement params
      (perform flavor s (.run name statement params result)) := by
    rintro rfl hadmits
    exact tried_of_admits earlier hname ht hadmits statement params result hs
  refine ⟨⟨fun hmade => ?_, fun hadmits => ?_⟩, hrefused, hqueued, htried⟩
  · apply Classical.byContradiction
    intro hnot
    rcases hrefused hnot with ⟨message, heq⟩
    exact hmade (by rw [heq])
  · exact attempts_of_admits (fun h => hqueued h hadmits) fun h => htried h hadmits

/-- The connection breaks between the two requests of a statement. -/
def cutOff : List Step :=
  [.begin { tx := "t", config := .settings [], reported := true, bookmarkOf := none
            handle := "b" },
    .layDown [{}, { failure := some (.connection "gone") }, {}]]

/-- The reply to a ROLLBACK is held back, so the transaction is being closed and still active. -/
def closingDown : List Step :=
  [.begin { tx := "t", config := .settings [], reported := true, bookmarkOf := none
            handle := "b" },
    .take "b", .hold true, .close "t" (some "c")]

theorem admission_atomic_of_cutOff :
    (∃ t : Transaction, t.Admits ∧ Admission .blocking (after .blocking {} cutOff) 0 t "S" []
        (perform .blocking (after .blocking {} cutOff) (.run "t" "S" [] none)) ∧
      (statementPart 0 "S" [] (after .blocking {} cutOff)).1 =
        [none, some (.connection "gone")]) ∧
    ∃ t : Transaction, t.state = .active ∧ ¬ t.Admits ∧
      Admission .nonblocking (after .nonblocking {} closingDown) 0 t "S" []
        (perform .nonblocking (after .nonblocking {} closingDown) (.run "t" "S" [] none)) :=
  have hplace : (after .blocking {} cutOff).transactions[0]? = some _ := rfl
  have hplace' : (after .nonblocking {} closingDown).transactions[0]? = some _ := rfl
  ⟨⟨_, ⟨rfl, Or.inl rfl⟩, admission_atomic .blocking cutOff rfl rfl hplace "S" [] none, rfl⟩,
    _, rfl, by decide, admission_atomic .nonblocking closingDown rfl rfl hplace' "S" [] none⟩

end Scenario

end ClientTransaction
