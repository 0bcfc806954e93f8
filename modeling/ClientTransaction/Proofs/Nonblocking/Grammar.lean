import ClientTransaction.Proofs.Nonblocking.Wire

/-!
# Nonblocking.Grammar — the calls that are made for a transaction

The calls for a transaction, from its BEGIN to the return of its connection, are a word of a simple
language: BEGIN, the statements that were accepted, at most a COMMIT and a ROLLBACK, and the return.
A ROLLBACK comes after a COMMIT only if a close sent that COMMIT and it was lost.
-/

namespace ClientTransaction.Nonblocking

open Scenario (Step after perform transaction? beginConfig)

/-! ## What is started for a transaction -/

/-- What the steps start for a transaction, one after the other. -/
def startsFor (tx : Nat) : Client → List Step → List Start
  | _, [] => []
  | s, step :: rest =>
      startedFor tx (started? s step) ++ startsFor tx (perform .nonblocking s step).2 rest

theorem openings_after (s : Client) (steps : List Step) (tx : Nat) :
    (after .nonblocking s steps).seen (Event.opening? tx) =
      s.seen (Event.opening? tx) ++ (startsFor tx s steps).map Start.run := by
  induction steps generalizing s with
  | nil => simp [startsFor, after]
  | cons step rest ih =>
      rcases exists_does s step tx with ⟨added, hdoes⟩
      have hafter : after .nonblocking s (step :: rest) =
          after .nonblocking (perform .nonblocking s step).2 rest := rfl
      rw [hafter, ih, hdoes.openings, startsFor, List.map_append, List.append_assoc]

/-- Transactions stay. -/
theorem length_le {s s' : Client} (h : s.Grows s') :
    s.transactions.length ≤ s'.transactions.length := by
  apply Nat.le_of_not_lt
  intro hlt
  rcases h.transactions _ _ (List.getElem?_eq_getElem hlt) with ⟨t, ht, -⟩
  simp at ht

/-- A BEGIN adds a transaction. -/
theorem length_begin {s : Client} (hs : Sound (.of s)) {b : Scenario.Begin} {config : Config}
    (hconfig : beginConfig s b = .ok config) :
    s.transactions.length < (perform .nonblocking s (.begin b)).2.transactions.length := by
  have hperform : (perform .nonblocking s (.begin b)).2 =
      begin s b.tx b.reported config b.handle := by
    simp [perform, Scenario.begin, hconfig]
  rcases (tracked_begin hs b.tx b.reported config b.handle).shown with
    ⟨p, x, -, hp, hyields, -⟩
  rw [hperform]
  exact hyields.lt hp

/-- Whatever is started is started for a transaction that is there then. -/
theorem lt_of_started {s : Client} (hs : Sound (.of s)) {step : Step} {x : Start}
    (h : started? s step = some x) : x.tx < (perform .nonblocking s step).2.transactions.length := by
  cases step with
  | begin b =>
      rcases Option.map_eq_some_iff.1 h with ⟨config, hconfig, rfl⟩
      cases hb : beginConfig s b with
      | error answer => simp [hb, Except.toOption] at hconfig
      | ok config => exact length_begin hs hb
  | run name statement params result =>
      have hrun : statement? s (.run name statement params result) = some x := h
      have hfoot : s.footing? x.tx = some ⟨false, none⟩ :=
        congrArg Account.footing? (running_of_statement hs hrun).account
      rcases Option.map_eq_some_iff.1 hfoot with ⟨t, ht, -⟩
      exact Nat.lt_of_lt_of_le (List.getElem?_eq_some_iff.1 ht).1
        (length_le (Scenario.grows_perform .nonblocking s _))
  | _ => simp [started?, statement?] at h

/-- For a transaction that is not there, nothing has been started. -/
theorem startsFor_eq_nil {s : Client} (hs : Sound (.of s)) (steps : List Step) {tx : Nat}
    (h : (after .nonblocking s steps).transactions.length ≤ tx) : startsFor tx s steps = [] := by
  induction steps generalizing s with
  | nil => rfl
  | cons step rest ih =>
      have hrest := ih (hs.moves (Scenario.leads_perform s step)) h
      have hlength := length_le
        (Scenario.grows_after .nonblocking (perform .nonblocking s step).2 rest)
      rw [startsFor, hrest, List.append_nil]
      cases hx : started? s step with
      | none => rfl
      | some x =>
          have hne : x.tx ≠ tx :=
            Nat.ne_of_lt (Nat.lt_of_lt_of_le (lt_of_started hs hx) (Nat.le_trans hlength h))
          simp [startedFor, Option.filter, hne]

/-- The statements of the transaction that are accepted, in the order of the calls. -/
def accepted (tx : Nat) : Client → List Step → List Start
  | _, [] => []
  | s, step :: rest =>
      (accepted? tx s step).toList ++ accepted tx (perform .nonblocking s step).2 rest

theorem startedFor_eq {s : Client} {tx : Nat} (hlt : tx < s.transactions.length) (step : Step) :
    startedFor tx (started? s step) = (accepted? tx s step).toList := by
  cases step with
  | begin b =>
      cases hb : beginConfig s b <;>
        simp [started?, startedFor, accepted?, hb, Except.toOption, Option.filter, Nat.ne_of_gt hlt]
  | run name statement params result =>
      cases hname : transaction? s name with
      | none =>
          simp [started?, statement?, startedFor, accepted?, perform, Scenario.onTransaction, hname]
      | some place =>
          rcases exists_of_transaction? hname with ⟨t, ht, -⟩
          cases ha : t.refusal? with
          | none =>
              by_cases htx : place = tx
              · subst htx
                simp [started?, statement?, startedFor, accepted?, perform, Scenario.onTransaction,
                  Scenario.run, runStatement, Scenario.Answer.ofFailure, hname, ht, ha,
                  Option.filter]
              · simp [started?, statement?, startedFor, accepted?, perform, Scenario.onTransaction,
                  Scenario.run, runStatement, Scenario.Answer.ofFailure, hname, ht, ha,
                  Option.filter, htx]
          | some e =>
              simp [started?, statement?, startedFor, accepted?, perform, Scenario.onTransaction,
                Scenario.run, runStatement, Scenario.Answer.ofFailure, hname, ht, ha]
  | _ => rfl

theorem startsFor_eq {s : Client} {tx : Nat} (hlt : tx < s.transactions.length)
    (steps : List Step) : startsFor tx s steps = accepted tx s steps := by
  induction steps generalizing s with
  | nil => rfl
  | cons step rest ih =>
      have hlength := length_le (Scenario.grows_perform .nonblocking s step)
      rw [startsFor, accepted, startedFor_eq hlt, ih (Nat.lt_of_lt_of_le hlt hlength)]

/-! ## The language -/

/-- BEGIN, which is flushed if there is a bookmark to wait for. -/
def beginCalls (tx : Nat) (config : Config) : List Event :=
  [.run tx .begin Message.begin config.beginParameters, .pullAll tx .begin] ++
    if config.bookmark.isEmpty then [] else [.flush tx]

def statementCalls (x : Start) : List Event :=
  [.run x.tx x.exchange x.statement x.params, .pullAll x.tx x.exchange, .flush x.tx]

/-- COMMIT or ROLLBACK. -/
def endCalls (tx : Nat) : Exchange → List Event
  | .commit => [.run tx .commit Message.commit [], .pullAll tx .commit, .flush tx]
  | exchange => [.run tx exchange Message.rollback [], .pullAll tx exchange, .flush tx]

/-- The calls of a transaction with these statements that was ended by these exchanges. -/
def word (tx : Nat) (config : Config) (statements : List Start) (exchanges : List Exchange)
    (ended : Bool) : List Event :=
  beginCalls tx config ++ statements.flatMap statementCalls ++ exchanges.flatMap (endCalls tx) ++
    if ended then [.release tx] else []

theorem calls_begin (tx : Nat) (config : Config) :
    Exchange.begin.calls tx Message.begin config.beginParameters = beginCalls tx config := by
  have hflushes : Exchange.begin.flushes config.beginParameters = !config.bookmark.isEmpty :=
    config.get?_beginParameters
  unfold Exchange.calls beginCalls
  rw [hflushes]
  cases config.bookmark.isEmpty <;> rfl

theorem calls_statement {x : Start} (h : ∃ cursor, x.exchange = .statement cursor) :
    x.run.calls = statementCalls x := by
  rcases h with ⟨cursor, h⟩
  simp [Start.run, Event.calls, Exchange.calls, Exchange.flushes, statementCalls, h]

theorem accepted_exchange {tx : Nat} {s : Client} {steps : List Step} {x : Start}
    (h : x ∈ accepted tx s steps) : ∃ cursor, x.exchange = .statement cursor := by
  induction steps generalizing s with
  | nil => simp [accepted] at h
  | cons step rest ih =>
      rcases List.mem_append.1 h with h | h
      · cases step with
        | run name statement params result =>
            simp only [accepted?] at h
            split at h
            · split at h
              · exact ⟨_, congrArg Start.exchange (List.mem_singleton.1 h)⟩
              · simp at h
            · simp at h
        | _ => simp [accepted?] at h
      · exact ih h

theorem calls_closings (tx : Nat) {exchanges : List Exchange}
    (h : ∀ exchange ∈ exchanges, exchange.ends = true) :
    ((exchanges.map some).map (Event.close tx)).flatMap Event.calls =
      exchanges.flatMap (endCalls tx) := by
  induction exchanges with
  | nil => rfl
  | cons exchange rest ih =>
      have hends := h exchange (List.mem_cons_self ..)
      have hrest := ih fun x hx => h x (List.mem_cons_of_mem _ hx)
      simp only [List.map_cons, List.flatMap_cons, hrest]
      cases exchange <;> simp [Exchange.ends] at hends <;> rfl

/-! ## A COMMIT that is followed by a ROLLBACK -/

/-- The steps contain a close that claims the transaction while it is marked for commit, and its
COMMIT was lost. -/
def ClosedInVain (tx : Nat) (steps : List Step) : Prop :=
  (∃ (before : List Step) (name : String) (handle : Option String) (rest : List Step)
    (t : Transaction), steps = before ++ .close name handle :: rest ∧
      transaction? (after .nonblocking {} before) name = some tx ∧
      (after .nonblocking {} before).transactions[tx]? = some t ∧ t.closing = false ∧
      t.state = .markedSuccess) ∧
    ∃ loss : Loss, (after .nonblocking {} steps).answers tx .commit = [loss.outcome]

theorem closedInVain_of_exchanges {steps : List Step} {tx : Nat}
    (h : (after .nonblocking {} steps).terminalExchanges tx = [.commit, .rollback]) :
    ClosedInVain tx steps := by
  have hopened : .commit ∈ (after .nonblocking {} steps).terminalExchanges tx := by simp [h]
  rcases exists_opening steps (by simp [Client.terminalExchanges, Client.seen]) hopened with
    ⟨before, step, rest, rfl, hbefore, hopens⟩
  rcases exists_terminalCall hbefore hopens with
    ⟨name, terminal, handle, t, hstep, hname, ht, hc, -⟩
  have hs := sound_after before
  -- The claim is followed to the end of the run.
  have htracked := tracked_terminate hs (kept_of_transaction? hname) ht hc terminal handle
  rw [← perform_terminalCall hstep hname ht] at htracked
  have hend := htracked.moves (follows_reports tx _ _)
    (hs.moves (Scenario.leads_perform _ step)) (Scenario.leads_after _ rest)
  rcases hend.shown with ⟨p, x, hd, hp, ⟨y, hpursues, -⟩, -⟩
  have hafter : after .nonblocking {} (before ++ step :: rest) =
      after .nonblocking (perform .nonblocking (after .nonblocking {} before) step).2 rest :=
    Scenario.after_append .nonblocking {} before (step :: rest)
  rw [← hafter] at hp
  have hexchanges : p.account.exchanges = [.commit, .rollback] := by
    rw [← h]
    exact (congrArg Account.exchanges hp.account).symm
  have hcommits : (after .nonblocking {} (before ++ step :: rest)).answers tx .commit =
      p.account.commits := congrArg Account.commits hp.account
  generalize hcourse : terminal.course t.state = course at hpursues
  -- Only a COMMIT with a fallback is followed by anything.
  have hfallback : course = .commitOrRollback ∧ ∃ loss : Loss, p.account.commits = [loss.outcome] := by
    cases hpursues with
    | fallingBack loss => exact ⟨rfl, loss, rfl⟩
    | fellBack loss answer => exact ⟨rfl, loss, rfl⟩
    | _ => simp [Phase.account, Conclusion.exchanges] at hexchanges
  have hclose : terminal = .close ∧ t.state = .markedSuccess := by
    rw [hfallback.1] at hcourse
    cases terminal <;> cases hstate : t.state <;> simp [Terminal.course, hstate] at hcourse ⊢
  rcases hclose with ⟨rfl, hstate⟩
  have hclosed : step = .close name handle := by
    cases step <;> simp [terminalCall?] at hstep ⊢
    exact hstep
  subst hclosed
  exact ⟨⟨before, name, handle, rest, t, rfl, hname, ht, hc, hstate⟩, hcommits ▸ hfallback.2⟩

/-! ## Every run -/

section

variable (steps : List Step) (tx : Nat)

/-- How a transaction may be ended. -/
theorem exchanges_mem :
    (after .nonblocking {} steps).terminalExchanges tx ∈
      [[], [.commit], [.commit, .rollback], [.rollback]] := by
  rcases (sound_after steps).phases tx with ⟨p, hp⟩
  have hexchanges : (after .nonblocking {} steps).terminalExchanges tx = p.account.exchanges :=
    congrArg Account.exchanges hp.account
  rw [hexchanges]
  cases p with
  | ended c => cases c <;> simp [Phase.account, Conclusion.exchanges]
  | _ => simp [Phase.account]

/-- The calls of the end are those of its exchanges, and then the return of the connection. -/
theorem calls_closing :
    (((after .nonblocking {} steps).seen (Event.closing? tx)).map (Event.close tx)).flatMap
        Event.calls =
      ((after .nonblocking {} steps).terminalExchanges tx).flatMap (endCalls tx) ++
        if ((after .nonblocking {} steps).final? tx).isSome then [.release tx] else [] := by
  have hends : ∀ exchange ∈ (after .nonblocking {} steps).terminalExchanges tx,
      exchange.ends = true := by
    have hmem := exchanges_mem steps tx
    simp only [List.mem_cons, List.not_mem_nil, or_false] at hmem
    intro exchange hexchange
    rcases hmem with h | h | h | h <;> rw [h] at hexchange <;> simp at hexchange
    · exact hexchange ▸ rfl
    · rcases hexchange with rfl | rfl <;> rfl
    · exact hexchange ▸ rfl
  have honce : (after .nonblocking {} steps).endings tx =
      if ((after .nonblocking {} steps).final? tx).isSome then [.released, .notified] else [] :=
    Scenario.endsOnce_after .nonblocking steps tx
  rw [closes_after steps tx, List.map_append, List.flatMap_append, calls_closings tx hends, honce]
  cases (after .nonblocking {} steps).final? tx <;> rfl

end

/-- BEGIN is started first, and then the statements that are accepted. -/
theorem openings_eq (earlier : List Step) {b : Scenario.Begin} {config : Config}
    (hconfig : beginConfig (after .nonblocking {} earlier) b = .ok config) (later : List Step)
    {tx : Nat} (htx : (after .nonblocking {} earlier).transactions.length = tx) :
    (after .nonblocking {} (earlier ++ .begin b :: later)).seen (Event.opening? tx) =
      .run tx .begin Message.begin config.beginParameters ::
        (accepted tx (after .nonblocking {} (earlier ++ [.begin b])) later).map Start.run := by
  have hsound := sound_after earlier
  have hlt := length_begin hsound hconfig
  rw [htx] at hlt
  have hnone : (after .nonblocking {} earlier).seen (Event.opening? tx) = [] := by
    have hopenings := openings_after {} earlier tx
    rw [startsFor_eq_nil sound_start earlier (Nat.le_of_eq htx)] at hopenings
    exact hopenings
  have hbegin : startedFor tx (started? (after .nonblocking {} earlier) (.begin b)) =
      [⟨tx, .begin, Message.begin, config.beginParameters, .begin _⟩] := by
    subst htx
    simp [startedFor, started?, hconfig, Except.toOption, Option.filter]
  rw [Scenario.after_append, openings_after, hnone, startsFor, hbegin,
    startsFor_eq hlt, Scenario.after_append]
  rfl

/-- The calls that are made for a transaction are a word of the language, with one group for each
statement that was accepted, in the order of the calls; what has happened at any moment is a
beginning of it. A ROLLBACK follows a COMMIT only if a close has sent that COMMIT in vain. Every RUN
on the connection is followed at once by its PULL_ALL. -/
theorem wire_eq_word (earlier : List Step) {b : Scenario.Begin} {config : Config}
    (hconfig : beginConfig (after .nonblocking {} earlier) b = .ok config) (later : List Step)
    {tx : Nat} (htx : (after .nonblocking {} earlier).transactions.length = tx) {s : Client}
    (hs : after .nonblocking {} (earlier ++ .begin b :: later) = s) :
    s.wire tx = word tx config (accepted tx (after .nonblocking {} (earlier ++ [.begin b])) later)
        (s.terminalExchanges tx) (s.final? tx).isSome ∧
      (∀ past, past <+: s.history → past.filterMap (Event.wire? tx) <+: s.wire tx) ∧
      s.terminalExchanges tx ∈ [[], [.commit], [.commit, .rollback], [.rollback]] ∧
      (s.terminalExchanges tx = [.commit, .rollback] →
        ClosedInVain tx (earlier ++ .begin b :: later)) ∧
      Paired s.history := by
  subst hs
  refine ⟨?_, fun past hpast => hpast.filterMap _, exchanges_mem _ tx, closedInVain_of_exchanges,
    (whole_after _).paired⟩
  have hstatements : ((accepted tx (after .nonblocking {} (earlier ++ [.begin b])) later).map
      Start.run).flatMap Event.calls =
        (accepted tx (after .nonblocking {} (earlier ++ [.begin b])) later).flatMap
          statementCalls := by
    rw [List.flatMap_map]
    exact List.flatMap_congr fun x hx => calls_statement (accepted_exchange hx)
  calc
    _ = ((after .nonblocking {} (earlier ++ .begin b :: later)).seen (Event.stroke? tx)).flatMap
        Event.calls := (whole_after _).wire tx
    _ = ((after .nonblocking {} (earlier ++ .begin b :: later)).seen (Event.opening? tx)).flatMap
          Event.calls ++
        (((after .nonblocking {} (earlier ++ .begin b :: later)).seen (Event.closing? tx)).map
          (Event.close tx)).flatMap Event.calls := by
      rw [ordered_after _ tx, List.flatMap_append]
    _ = (beginCalls tx config ++
          (accepted tx (after .nonblocking {} (earlier ++ [.begin b])) later).flatMap
            statementCalls) ++ _ := by
      rw [openings_eq earlier hconfig later htx, List.flatMap_cons, hstatements]
      exact congrArg (fun calls => calls ++ _ ++ _) (calls_begin tx config)
    _ = _ := by
      rw [calls_closing, word, List.append_assoc, List.append_assoc, List.append_assoc]

/-- A transaction that waits for no bookmark. -/
def unmarked : Scenario.Begin :=
  { tx := "t", config := .settings [], reported := true, bookmarkOf := none, handle := "b" }

/-- One statement, and a commit that the server refuses. -/
def refused : List Step :=
  [.script ⟨Message.commit, none, some { outcome := .failure .completionDropped }⟩, .take "b",
    .run "t" "RETURN 1" [] none, .success "t", .close "t" none]

theorem wire_eq_word_of_refused :
    (after .nonblocking {} (.begin unmarked :: refused)).wire 0 =
      [.run 0 .begin Message.begin [], .pullAll 0 .begin,
        .run 0 (.statement 0) "RETURN 1" [], .pullAll 0 (.statement 0), .flush 0,
        .run 0 .commit Message.commit [], .pullAll 0 .commit, .flush 0,
        .run 0 .rollback Message.rollback [], .pullAll 0 .rollback, .flush 0, .release 0] := by
  have hconfig : beginConfig (after .nonblocking {} []) unmarked = .ok {} := rfl
  exact (wire_eq_word [] hconfig refused rfl rfl).1.trans rfl

end ClientTransaction.Nonblocking
