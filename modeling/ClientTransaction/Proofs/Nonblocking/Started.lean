import ClientTransaction.Proofs.Client.Starts
import ClientTransaction.Proofs.Nonblocking.Outcomes

/-!
# Nonblocking.Started — which exchanges a step starts

A step that begins a transaction starts BEGIN, and one that runs a statement starts it, unless it is
refused. Before replies are delivered nothing else is started by these steps. A COMMIT is started by
a terminal operation that the state calls for, and all that follows from replies is ROLLBACK.
-/

namespace ClientTransaction.Nonblocking

open Scenario (Step after perform transaction? beginConfig)
open Client (Starts)

/-- A BEGIN or a statement. -/
structure Start where
  tx : Nat
  exchange : Exchange
  statement : String
  params : Params
  worded : Worded exchange statement params

namespace Start

def calls (x : Start) : List Event :=
  x.exchange.calls x.tx x.statement x.params

theorem starts (x : Start) {allowed : Nat → Exchange → Prop} (h : allowed x.tx x.exchange)
    {s s₁ : Client} (hh : s₁.history = s.history ++ x.calls) : Starts allowed s s₁ := by
  refine ⟨[.start x.tx x.exchange x.statement x.params x.worded], ?_, ?_⟩
  · rw [hh]
    simp [Block.events, calls]
  · simpa [Block.start?] using h

end Start

/-- The statement that a step runs, if it is not refused. -/
def statement? (s : Client) : Step → Option Start
  | .run name statement params _ =>
      (transaction? s name).bind fun tx =>
        if (s.transactions[tx]?.bind Transaction.refusal?).isNone then
          some ⟨tx, .statement s.cursors.length, statement, params, .statement _ _ _⟩
        else none
  | _ => none

/-- The statement that a step runs for the transaction, if the call is accepted. -/
def accepted? (tx : Nat) (s : Client) : Step → Option Start
  | .run name statement params result =>
      match (perform .nonblocking s (.run name statement params result)).1 with
      | .done =>
          if transaction? s name = some tx then
            some ⟨tx, .statement s.cursors.length, statement, params, .statement _ _ _⟩
          else none
      | _ => none
  | _ => none

/-- What a step starts before replies are delivered, unless it ends a transaction. -/
def started? (s : Client) : Step → Option Start
  | .begin b =>
      (beginConfig s b).toOption.map fun config =>
        ⟨s.transactions.length, .begin, Message.begin, config.beginParameters, .begin _⟩
  | step => statement? s step

theorem statement?_exchange {s : Client} {step : Step} {x : Start}
    (h : statement? s step = some x) : x.exchange = .statement s.cursors.length := by
  cases step with
  | run name statement params result =>
      rcases Option.bind_eq_some_iff.1 h with ⟨tx, -, hx⟩
      split at hx
      · cases hx
        rfl
      · simp at hx
  | _ => simp [statement?] at h

theorem started?_exchange {s : Client} {step : Step} {x : Start} (h : started? s step = some x) :
    x.exchange = .begin ∨ ∃ cursor, x.exchange = .statement cursor := by
  cases step with
  | begin b =>
      rcases Option.map_eq_some_iff.1 h with ⟨config, -, rfl⟩
      exact Or.inl rfl
  | run name statement params result =>
      have hrun : statement? s (.run name statement params result) = some x := h
      exact Or.inr ⟨_, statement?_exchange hrun⟩
  | _ => simp [started?, statement?] at h

/-! ## Operations -/

section

variable {allowed : Nat → Exchange → Prop}

theorem starts_begin (hback : ∀ tx, allowed tx .rollback) (s : Client) (title : String)
    (reported : Bool) (config : Config) (name : String) :
    ∃ s₁ : Client, s₁.history = s.history ++
        Exchange.begin.calls s.transactions.length Message.begin config.beginParameters ∧
      Starts allowed s₁ (begin s title reported config name) := by
  have hflushes := config.get?_beginParameters
  unfold begin
  dsimp only
  split
  · rename_i hempty
    refine ⟨_, ?_, .of_history rfl⟩
    rw [(Client.frame_addHandle _ _).2.2.2.2, (Client.frame_send _ _ _ _ _ _ _).2.2.2.2]
    simp [Exchange.calls, Exchange.flushes, hflushes, hempty]
  · rename_i hsome
    refine ⟨_, ?_, .settle hback _⟩
    rw [(Client.frame_record _ _).2.2.2.2, (Client.frame_send _ _ _ _ _ _ _).2.2.2.2]
    simp [Exchange.calls, Exchange.flushes, hflushes, hsome]

theorem starts_runStatement (hback : ∀ tx, allowed tx .rollback) {s : Client} {tx : Nat}
    (ha : s.transactions[tx]?.bind Transaction.refusal? = none) (statement : String)
    (params : Params) (name : Option String) :
    ∃ s₁ : Client, s₁.history = s.history ++
        (Exchange.statement s.cursors.length).calls tx statement params ∧
      Starts allowed s₁ (runStatement s tx statement params name).2 := by
  simp only [runStatement, ha]
  refine ⟨_, ?_, .settle hback _⟩
  rw [(Client.frame_record _ _).2.2.2.2, (Client.frame_send _ _ _ _ _ _ _).2.2.2.2]
  simp [Exchange.calls, Exchange.flushes]

theorem starts_consume (s : Client) (cursor : Nat) (name : Option String) :
    Starts allowed s (consume s cursor name) := by
  unfold consume
  split
  · exact .refl s
  · split <;> exact .of_history rfl

theorem starts_sendTerminal (hback : ∀ tx, allowed tx .rollback) (s : Client) (tx : Nat)
    {course : Course} (done : TerminalChain)
    (h : course = .commit ∨ course = .commitOrRollback → allowed tx .commit) :
    Starts allowed s (sendTerminal s tx course done) := by
  cases course with
  | finish result => exact (Starts.fire s tx done result).trans (.follow hback _)
  | commit => exact Starts.exchange hback s (h (Or.inl rfl)) .commit rfl _ _
  | commitOrRollback => exact Starts.exchange hback s (h (Or.inr rfl)) .commit rfl _ _
  | rollback => exact Starts.exchange hback s (hback tx) .rollback rfl _ _

/-- A terminal operation opens COMMIT only if the state that it finds calls for it. -/
theorem starts_terminate (hback : ∀ tx, allowed tx .rollback) (s : Client) (tx : Nat)
    (terminal : Terminal) (name : Option String)
    (h : ∀ t : Transaction, s.transactions[tx]? = some t → t.closing = false →
      terminal.course t.state = .commit ∨ terminal.course t.state = .commitOrRollback →
      allowed tx .commit) :
    Starts allowed s (terminate s tx terminal name) := by
  cases ht : s.transactions[tx]? with
  | none => exact .of_history (by simp [terminate, ht])
  | some t =>
      cases hc : t.closing with
      | true => exact .of_history (by rw [terminate_of_claimed ht hc]; rfl)
      | false =>
          rw [terminate_of_unclaimed ht hc]
          have hclaimed : Starts allowed s (claimed s tx name) := .of_history rfl
          exact hclaimed.trans (starts_sendTerminal hback _ tx _ (h t ht hc))

theorem starts_abandon (hback : ∀ tx, allowed tx .rollback) (s : Client) (tx : Nat) :
    Starts allowed s (Client.follow (s.abandon s.connection.queue tx)) :=
  (Starts.abandon s s.connection.queue tx).trans (.follow hback _)

theorem starts_ask (s : Client) (handle : Nat)
    (question : Handle Payload → Option (Except Error Payload) × Handle Payload) :
    Starts allowed s (ask s handle question).2 := by
  unfold ask
  split
  · exact .refl s
  · dsimp only
    unfold adopt
    split
    · split <;> exact .of_history rfl
    · exact .of_history rfl

theorem starts_dropHandle (hback : ∀ tx, allowed tx .rollback) (s : Client) (handle : Nat) :
    Starts allowed s (dropHandle s handle) := by
  unfold dropHandle
  split
  · exact .refl s
  · rename_i h _
    have hset : Starts allowed s { s with handles := s.handles.set handle h.drop } :=
      .of_history rfl
    dsimp only
    split
    · exact hset.trans (starts_abandon hback _ _)
    · exact hset

/-! ## Steps -/

variable {s : Client} {name : String}

theorem starts_onTransaction {act : Nat → Transaction → Scenario.Answer × Client}
    (h : ∀ (tx : Nat) (t : Transaction), transaction? s name = some tx →
      s.transactions[tx]? = some t → Starts allowed s (act tx t).2) :
    Starts allowed s (Scenario.onTransaction s name act).2 := by
  unfold Scenario.onTransaction
  cases hname : transaction? s name with
  | none => exact .refl s
  | some tx =>
      cases ht : s.transactions[tx]? with
      | none => simpa [ht] using Starts.refl s
      | some t => simpa [ht] using h tx t hname ht

theorem starts_onCursor {act : Nat → Cursor → Scenario.Answer × Client}
    (h : ∀ (cursor : Nat) (c : Cursor), Starts allowed s (act cursor c).2) :
    Starts allowed s (Scenario.onCursor s name act).2 := by
  unfold Scenario.onCursor
  split
  · exact .refl s
  · split
    · exact .refl s
    · exact h _ _

theorem starts_onHandle {act : Nat → Scenario.Answer × Client}
    (h : ∀ handle : Nat, Starts allowed s (act handle).2) :
    Starts allowed s (Scenario.onHandle s name act).2 := by
  unfold Scenario.onHandle
  split
  · exact .refl s
  · exact h _

theorem starts_change (f : Transaction → Transaction) :
    Starts allowed s (Scenario.change s name f).2 :=
  starts_onTransaction fun _ _ _ _ => .of_history rfl

theorem starts_terminalCall (hback : ∀ tx, allowed tx .rollback) (terminal : Terminal)
    (handle : Option String)
    (h : ∀ (tx : Nat) (t : Transaction), transaction? s name = some tx →
      s.transactions[tx]? = some t → t.closing = false →
      terminal.course t.state = .commit ∨ terminal.course t.state = .commitOrRollback →
      allowed tx .commit) :
    Starts allowed s (Scenario.terminate .nonblocking s name terminal handle).2 := by
  apply starts_onTransaction
  intro tx _ hname _
  exact starts_terminate hback s tx terminal handle fun t ht => h tx t hname ht

end

/-! ## All steps -/

section

variable {allowed : Nat → Exchange → Prop} (hback : ∀ tx, allowed tx .rollback) (s : Client)

include hback

/-- A step starts BEGIN or a statement first, if it does so at all. Then it starts only the COMMIT
that a terminal operation calls for, and ROLLBACKs. -/
theorem exists_started (step : Step)
    (hcommit : ∀ (name : String) (terminal : Terminal) (handle : Option String) (tx : Nat)
      (t : Transaction), terminalCall? step = some (name, terminal, handle) →
      transaction? s name = some tx → s.transactions[tx]? = some t → t.closing = false →
      terminal.course t.state = .commit ∨ terminal.course t.state = .commitOrRollback →
      allowed tx .commit) :
    ∃ s₁ : Client, s₁.history = s.history ++ (started? s step).elim [] Start.calls ∧
      Starts allowed s₁ (perform .nonblocking s step).2 := by
  -- Most steps start nothing of their own.
  have hrest : started? s step = none → Starts allowed s (perform .nonblocking s step).2 →
      ∃ s₁ : Client, s₁.history = s.history ++ (started? s step).elim [] Start.calls ∧
        Starts allowed s₁ (perform .nonblocking s step).2 := by
    intro hnone hstarts
    exact ⟨s, by simp [hnone], hstarts⟩
  cases step with
  | script | failSends | heal | layDown | hold | disconnect | reconnect =>
      exact hrest rfl (.of_history rfl)
  | deliver limit => exact hrest rfl (.deliverUpTo hback _ none s)
  | dropQueue => exact hrest rfl (.dropQueue hback s)
  | begin b =>
      cases hconfig : beginConfig s b with
      | error answer =>
          refine hrest (by simp [started?, hconfig, Except.toOption]) ?_
          simpa [perform, Scenario.begin, hconfig] using Starts.refl s
      | ok config =>
          simpa [started?, perform, Scenario.begin, hconfig, Except.toOption, Start.calls] using
            starts_begin hback s b.tx b.reported config b.handle
  | success | failure | resultFetched | resultFailed => exact hrest rfl (starts_change _)
  | setBookmark tx source =>
      refine hrest rfl (starts_onTransaction ?_)
      intro _ _ _ _
      split <;> exact .of_history rfl
  | bookmark | observe | describe =>
      exact hrest rfl (starts_onTransaction fun _ _ _ _ => .refl s)
  | sameId =>
      exact hrest rfl
        (starts_onTransaction fun _ _ _ _ => starts_onTransaction fun _ _ _ _ => .refl s)
  | run name statement params result =>
      cases hname : transaction? s name with
      | none =>
          refine hrest (by simp [started?, statement?, hname]) ?_
          simpa [perform, Scenario.onTransaction, hname] using Starts.refl s
      | some tx =>
          rcases exists_of_transaction? hname with ⟨t, ht, -⟩
          have hperform : (perform .nonblocking s (.run name statement params result)).2 =
              (runStatement s tx statement params result).2 := by
            simp [perform, Scenario.onTransaction, hname, ht, Scenario.run]
          rw [hperform]
          cases ha : t.refusal? with
          | some e =>
              refine ⟨s, by simp [started?, statement?, hname, ht, ha], ?_⟩
              simpa [runStatement, ht, ha] using Starts.refl s
          | none =>
              have haccepts : s.transactions[tx]?.bind Transaction.refusal? = none := by
                rw [ht, Option.bind_some, ha]
              simpa [started?, statement?, hname, ht, ha, Start.calls] using
                starts_runStatement hback haccepts statement params result
  | close tx handle =>
      exact hrest rfl
        (starts_terminalCall hback .close handle fun tx t => hcommit _ _ handle tx t rfl)
  | commit tx handle =>
      exact hrest rfl
        (starts_terminalCall hback .commit handle fun tx t => hcommit _ _ handle tx t rfl)
  | rollback tx handle =>
      exact hrest rfl
        (starts_terminalCall hback .rollback handle fun tx t => hcommit _ _ handle tx t rfl)
  | clone => exact hrest rfl (starts_onTransaction fun _ _ _ _ => .of_history rfl)
  | drop tx =>
      refine hrest rfl (starts_onTransaction ?_)
      intro place _ _ _
      have hgone : Starts allowed s (s.updateTransaction place (Transaction.letGo tx)) :=
        .of_history rfl
      exact hgone.trans (starts_abandon hback _ place)
  | keys | records | cursor => exact hrest rfl (starts_onCursor fun _ _ => .refl s)
  | consume result handle =>
      exact hrest rfl (starts_onCursor fun cursor _ => starts_consume s cursor handle)
  | get result index key =>
      refine hrest rfl (starts_onCursor ?_)
      intro _ c
      split <;> exact .refl s
  | dropResult => exact hrest rfl (starts_onCursor fun cursor _ => .calm (.dropCursor s cursor))
  | take | poll => exact hrest rfl (starts_onHandle fun handle => starts_ask s handle _)
  | dropHandle => exact hrest rfl (starts_onHandle fun handle => starts_dropHandle hback s handle)

/-- Apart from BEGIN, statements and ROLLBACK, a step starts only the COMMIT that a terminal
operation calls for. -/
theorem starts_perform (hbegin : ∀ tx, allowed tx .begin)
    (hrun : ∀ tx cursor, allowed tx (.statement cursor)) (step : Step)
    (hcommit : ∀ (name : String) (terminal : Terminal) (handle : Option String) (tx : Nat)
      (t : Transaction), terminalCall? step = some (name, terminal, handle) →
      transaction? s name = some tx → s.transactions[tx]? = some t → t.closing = false →
      terminal.course t.state = .commit ∨ terminal.course t.state = .commitOrRollback →
      allowed tx .commit) :
    Starts allowed s (perform .nonblocking s step).2 := by
  rcases exists_started hback s step hcommit with ⟨s₁, hhistory, hstarts⟩
  cases hx : started? s step with
  | none =>
      rw [hx] at hhistory
      exact (Starts.of_history (by simpa using hhistory)).trans hstarts
  | some x =>
      rw [hx] at hhistory
      refine (x.starts ?_ hhistory).trans hstarts
      rcases started?_exchange hx with hbegun | ⟨cursor, hstatement⟩
      · exact hbegun ▸ hbegin x.tx
      · exact hstatement ▸ hrun x.tx cursor

end

/-! ## Where COMMIT comes from -/

section

variable {s : Client} {tx : Nat}

/-- COMMIT is opened by a terminal operation that calls for it. -/
theorem exists_terminalCall {step : Step} (h : .commit ∉ s.terminalExchanges tx)
    (h' : .commit ∈ (perform .nonblocking s step).2.terminalExchanges tx) :
    ∃ (name : String) (terminal : Terminal) (handle : Option String) (t : Transaction),
      terminalCall? step = some (name, terminal, handle) ∧ transaction? s name = some tx ∧
        s.transactions[tx]? = some t ∧ t.closing = false ∧
        (terminal.course t.state = .commit ∨ terminal.course t.state = .commitOrRollback) := by
  apply Classical.byContradiction
  intro hnone
  have hstarts : Starts (fun place exchange => ¬ (place = tx ∧ exchange = .commit)) s
      (perform .nonblocking s step).2 := by
    refine starts_perform (by simp) s (by simp) (by simp) step ?_
    rintro name terminal handle place t hstep hname ht hc hcourse ⟨rfl, -⟩
    exact hnone ⟨name, terminal, handle, t, hstep, hname, ht, hc, hcourse⟩
  exact h (hstarts.terminalExchange_mem (by simp) h')

/-- In a run that opens COMMIT there is a step that opens it. -/
theorem exists_opening (later : List Step) (h : .commit ∉ s.terminalExchanges tx)
    (h' : .commit ∈ (after .nonblocking s later).terminalExchanges tx) :
    ∃ (earlier : List Step) (step : Step) (rest : List Step), later = earlier ++ step :: rest ∧
      .commit ∉ (after .nonblocking s earlier).terminalExchanges tx ∧
      .commit ∈ (perform .nonblocking (after .nonblocking s earlier) step).2.terminalExchanges
        tx := by
  induction later generalizing s with
  | nil => exact absurd h' h
  | cons step rest ih =>
      by_cases hnow : .commit ∈ (perform .nonblocking s step).2.terminalExchanges tx
      · exact ⟨[], step, rest, rfl, h, hnow⟩
      · rcases ih hnow h' with ⟨earlier, next, rest', rfl, hbefore, hopens⟩
        exact ⟨step :: earlier, next, rest', rfl, hbefore, hopens⟩

end

end ClientTransaction.Nonblocking
