import ClientTransaction.Proofs.Scenario.Filing

/-!
# Blocking.Statements — a result that is handed out has been asked for

A statement that cannot be sent leaves a cursor that nobody has. So the results that the application
holds are those of statements whose RUN and whose PULL_ALL have both been sent, and each of the two
is queued or has come to its end. Only running a statement gives a result a name; every other call
leaves results their names, or takes one away.
-/

namespace ClientTransaction.Blocking

open Scenario
open Nonblocking (Situation)

/-! ## Names of results -/

section

variable {s : Client}

/-- If each of two parts leaves all names as they are, so does one after the other. -/
theorem names_andThen {sent : Sent} {next : Client → Sent} (h : sent.2.names = s.names)
    (hnext : ∀ s' : Client, (next s').2.names = s'.names) :
    (sent.andThen next).2.names = s.names := by
  rcases sent with ⟨failure, s₁⟩
  cases failure with
  | none => exact (hnext s₁).trans h
  | some e => exact h

theorem names_call (tx : Nat) (kind : Call) (event : Event) (s : Client) :
    (call tx kind event s).2.names = s.names := by
  unfold call
  dsimp only
  split <;> exact Client.names_deliver _ _

theorem names_request (tx : Nat) (exchange : Exchange) (statement : String) (params : Params)
    (first second : Handler) (s : Client) :
    ((run tx exchange statement params first s).andThen
      (pullAll tx exchange second)).2.names = s.names := by
  have hrun : (run tx exchange statement params first s).2.names = s.names :=
    names_andThen (names_call _ _ _ _) fun _ => rfl
  exact names_andThen hrun fun s' => names_andThen (names_call _ _ _ s') fun _ => rfl

theorem names_sync (tx : Nat) (s : Client) : (sync tx s).2.names = s.names := by
  unfold sync
  dsimp only
  split
  · exact names_andThen (names_call _ _ _ _) fun s' => s'.names_deliver none
  · exact names_call _ _ _ _

theorem names_finish (tx : Nat) (exchange : Exchange) (statement : String) (terminal : State)
    (s : Client) : (finish tx exchange statement terminal s).2.names = s.names := by
  have hsynced := names_andThen (names_request tx exchange statement [] .ignore .bookmark s)
    fun s' => names_sync tx s'
  exact names_andThen hsynced fun s' => s'.names_updateTransaction tx fun _ => rfl

theorem names_commitOrRollback (tx : Nat) (s : Client) :
    (commitOrRollback tx s).2.names = s.names := by
  have hcommit : (commitExchange tx s).2.names = s.names := names_finish _ _ _ _ _
  unfold commitOrRollback
  generalize commitExchange tx s = sent at hcommit
  rcases sent with ⟨failure, s₁⟩
  cases failure with
  | none => exact hcommit
  | some e => exact (names_finish _ _ _ _ s₁).trans hcommit

theorem names_conclude (tx : Nat) (state : State) (s : Client) :
    (conclude tx state s).2.names = s.names := by
  unfold conclude
  split
  · cases state with
    | markedSuccess => exact names_commitOrRollback tx s
    | active => exact names_finish _ _ _ _ _
    | markedFailed => exact names_finish _ _ _ _ _
    | failed => rfl
    | committed => rfl
    | rolledBack => rfl
  · split <;> rfl

theorem names_close (s : Client) (tx : Nat) : (close s tx).2.names = s.names := by
  cases ht : s.transactions[tx]? with
  | none => rw [close_of_unborn ht]
  | some t =>
      cases hc : t.closing with
      | true => rw [close_of_claimed ht hc]
      | false =>
          have hclaim : (s.updateTransaction tx Transaction.claim).names = s.names :=
            s.names_updateTransaction tx fun _ => rfl
          rw [close_of_unclaimed ht hc]
          exact (Client.names_release _ tx).trans ((names_conclude _ _ _).trans hclaim)

theorem names_begin (s : Client) (title : String) (reported : Bool) (config : Config) :
    (begin s title reported config).2.cursors.map Cursor.name = s.cursors.map Cursor.name := by
  have hsent : (sendBegin s.transactions.length config
      (s.addTransaction { title := title, reported := reported })).2.names =
        (s.addTransaction { title := title, reported := reported }).names := by
    unfold sendBegin
    dsimp only
    split
    · exact names_request _ _ _ _ _ _ _
    · exact names_andThen (names_request _ _ _ _ _ _ _) fun s' => names_sync _ s'
  unfold begin
  dsimp only
  generalize sendBegin s.transactions.length config
    (s.addTransaction { title := title, reported := reported }) = sent at hsent
  rcases sent with ⟨failure, s₁⟩
  have hkept : s₁.cursors.map Cursor.name = s.cursors.map Cursor.name :=
    congrArg (fun names => names.2.1) hsent
  cases failure with
  | none => exact hkept
  | some e =>
      -- What could not be begun is closed, and no result is concerned.
      have hclosed := names_close (s₁.updateTransaction s.transactions.length
        Transaction.markFailed) s.transactions.length
      exact (congrArg (fun names => names.2.1) hclosed).trans hkept

theorem names_wait (s : Client) (cursor : Nat) : (wait s cursor).2.names = s.names := by
  cases hc : s.cursors[cursor]? with
  | none => rw [wait_of_complete (by simp [hc])]
  | some c =>
      cases hcomplete : c.isComplete with
      | true => rw [wait_of_complete (by simp [hc, hcomplete])]
      | false => rw [wait_of_unfinished hc hcomplete, names_sync]

end

/-! ## Who gets a name -/

/-- Whatever result has a name has had one before. -/
def NamesNone (s s' : Client) : Prop :=
  ∀ (cursor : Nat) (c' : Cursor), s'.cursors[cursor]? = some c' → c'.name ≠ none →
    ∃ c : Cursor, s.cursors[cursor]? = some c ∧ c.name ≠ none

namespace NamesNone

variable {s s' : Client} {name : String}

theorem refl (s : Client) : NamesNone s s :=
  fun _ c hc hn => ⟨c, hc, hn⟩

theorem of_names (h : s'.cursors.map Cursor.name = s.cursors.map Cursor.name) :
    NamesNone s s' := by
  intro cursor c' hc' hn
  have hsame := congrArg (fun names => names[cursor]?) h
  simp only [List.getElem?_map, hc', Option.map_some] at hsame
  rcases Option.map_eq_some_iff.1 hsame.symm with ⟨c, hc, hname⟩
  exact ⟨c, hc, hname ▸ hn⟩

theorem of_all (h : s'.names = s.names) : NamesNone s s' :=
  of_names (congrArg (fun names => names.2.1) h)

theorem onTransaction {act : Nat → Transaction → Answer × Client}
    (h : ∀ tx t, NamesNone s (act tx t).2) : NamesNone s (onTransaction s name act).2 := by
  unfold Scenario.onTransaction
  split
  · exact .refl s
  · split
    · exact .refl s
    · exact h _ _

theorem onCursor {act : Nat → Cursor → Answer × Client}
    (h : ∀ cursor c, NamesNone s (act cursor c).2) : NamesNone s (onCursor s name act).2 := by
  unfold Scenario.onCursor
  split
  · exact .refl s
  · split
    · exact .refl s
    · exact h _ _

theorem read (view : Cursor → Answer) : NamesNone s (Scenario.read .blocking s name view).2 :=
  .onCursor fun cursor _ => .of_all (names_wait s cursor)

/-- Transactions may be let go and marked before one is closed. -/
theorem close (h : s'.cursors = s.cursors) (tx : Nat) : NamesNone s (close s' tx).2 := by
  have hclosed := congrArg (fun names => names.2.1) (names_close s' tx)
  exact .of_names (hclosed.trans (congrArg (List.map Cursor.name) h))

/-- Whoever lets a result go takes its name away. -/
theorem dropCursor (s : Client) (cursor : Nat) : NamesNone s (s.dropCursor cursor) := by
  have hreleased := Client.names_releaseCursor
    (s.updateCursor cursor fun c => { c with name := none }) s.connection.queue cursor
  intro place c' hc' hn
  rcases of_all hreleased place c' hc' hn with ⟨c, hc, hname⟩
  rw [(s.frame_updateCursor cursor _).2.1] at hc
  rcases getElem?_modify_cases hc with ⟨-, x, -, rfl⟩ | ⟨-, hkept⟩
  · exact absurd rfl hname
  · exact ⟨c, hkept, hname⟩

/-- No step but running a statement gives a result a name. -/
theorem perform (hs : s.handles = []) {step : Step}
    (hstep : ∀ tx statement params result, step ≠ .run tx statement params result) :
    NamesNone s (perform .blocking s step).2 := by
  have hhandle : ∀ (name : String) (act : Nat → Answer × Client),
      NamesNone s (onHandle s name act).2 := by
    intro name act
    simp only [onHandle, handle?, Handle.find?, hs, List.findIdx?_nil]
    exact .refl s
  cases step with
  | script | failSends | heal | layDown | hold | disconnect | reconnect => exact .of_all rfl
  | deliver limit => exact .of_all (s.names_deliver limit)
  | dropQueue => exact .of_all s.names_dropQueue
  | begin b =>
      show NamesNone s (Scenario.begin .blocking s b).2
      unfold Scenario.begin
      split
      · exact .refl s
      · exact .of_names (names_begin s _ _ _)
  | success | failure | resultFetched | resultFailed =>
      exact .onTransaction fun _ _ => .of_names rfl
  | setBookmark =>
      refine .onTransaction fun _ _ => ?_
      split <;> exact .of_names rfl
  | bookmark | observe | describe | clone => exact .onTransaction fun _ _ => .refl s
  | sameId => exact .onTransaction fun _ _ => .onTransaction fun _ _ => .refl s
  | run tx statement params result => exact absurd rfl (hstep tx statement params result)
  | close => exact .onTransaction fun tx _ => .close rfl tx
  | commit => exact .onTransaction fun tx _ => .close rfl tx
  | rollback => exact .onTransaction fun tx _ => .close rfl tx
  | drop => exact .onTransaction fun tx _ => .close rfl tx
  | keys | records | consume => exact .read _
  | cursor => exact .onCursor fun _ _ => .refl s
  | get =>
      refine .onCursor fun _ _ => ?_
      split <;> exact .refl s
  | dropResult => exact .onCursor fun cursor _ => .dropCursor s cursor
  | take | poll | dropHandle => exact hhandle _ _

end NamesNone

/-! ## Running a statement -/

section

variable {s : Client}

theorem names_statement (tx cursor : Nat) (statement : String) (params : Params) (s : Client) :
    (((run tx (.statement cursor) statement params (.columns cursor) s).andThen
      (pullAll tx (.statement cursor) (.rows cursor))).andThen (flush tx)).2.names = s.names :=
  names_andThen (names_request _ _ _ _ _ _ _) fun s' => names_call _ _ _ s'

/-- A result that has got a name belongs to a statement that was sent as a whole. -/
theorem named_runStatement {tx : Nat} (hp : s.connection.Passive) (ht : tx < s.transactions.length)
    (hl : ledger (.of s) s.cursors.length = []) (statement : String) (params : Params)
    (name : Option String) {cursor : Nat} {c' : Cursor}
    (hc' : (runStatement s tx statement params name).2.cursors[cursor]? = some c')
    (hn : c'.name ≠ none) :
    (∃ c : Cursor, s.cursors[cursor]? = some c ∧ c.name ≠ none) ∨
      ledger (.of (runStatement s tx statement params name).2) cursor = [.run, .pullAll] := by
  unfold runStatement at hc' ⊢
  cases hr : s.transactions[tx]?.bind Transaction.refusal? with
  | some e => exact Or.inl ⟨c', by simpa [hr] using hc', hn⟩
  | none =>
      rw [hr] at hc'
      dsimp only at hc' ⊢
      have hnew : s.cursors.length <
          (s.addCursor { statement := statement, owner := tx }).cursors.length := by simp
      rcases hsent : ((run tx (.statement s.cursors.length) statement params
        (.columns s.cursors.length) (s.addCursor { statement := statement, owner := tx })).andThen
        (pullAll tx (.statement s.cursors.length) (.rows s.cursors.length))).andThen (flush tx) with
        ⟨failure, s₁⟩
      have hledger := (asks_statement (s := s.addCursor { statement := statement, owner := tx })
        statement params hp hnew ht hl hsent).2
      have hnames := names_statement tx s.cursors.length statement params
        (s.addCursor { statement := statement, owner := tx })
      rw [hsent] at hnames hc'
      -- Sending gives no names, and the new cursor has none yet.
      have hkept : ∀ c, s₁.cursors[cursor]? = some c → c.name ≠ none →
          ∃ c : Cursor, s.cursors[cursor]? = some c ∧ c.name ≠ none := by
        intro c hc hname
        rcases NamesNone.of_all hnames cursor c hc hname with ⟨c₀, hc₀, hname₀⟩
        rcases getElem?_concat_cases hc₀ with ⟨-, rfl⟩ | hold
        · exact absurd rfl hname₀
        · exact ⟨c₀, hold, hname₀⟩
      cases failure with
      | some e => exact Or.inl (hkept c' hc' hn)
      | none =>
          dsimp only at hc' ⊢
          rw [(s₁.frame_updateCursor _ _).2.1] at hc'
          rcases getElem?_modify_cases hc' with ⟨rfl, -⟩ | ⟨-, hother⟩
          · exact Or.inr (hledger rfl)
          · exact Or.inl (hkept c' hother hn)

/-! ## Steps and runs -/

/-- What has been sent for a statement stays sent. -/
theorem ledger_strides {flavor : Flavor} {ds : List (Nat × Deed)} {σ σ' : Situation}
    (h : Strides flavor ds σ σ') (cursor : Nat) : ledger σ cursor <+: ledger σ' cursor := by
  induction h with
  | refl => exact List.prefix_refl _
  | tail _ hd ih =>
      refine ih.trans ?_
      cases hd with
      | apart ha => simp [ha.ledger_eq]
      | tells ht d => exact List.prefix_refl _
      | begins tx statement name => exact List.prefix_refl _
      | @sends rs s r place hs he hc ho hnext =>
          unfold ledger
          rw [List.filter_append, List.map_append, ← List.append_assoc]
          exact List.prefix_append _ _
      | answers reply others ht hb => simp [ledger_answered ht]

/-- A result has a name after a step if it had one before or has just been asked for as a whole. -/
theorem named_perform (hs : Settled s) (hl : ledger (.of s) s.cursors.length = []) (step : Step)
    {cursor : Nat} {c' : Cursor} (hc' : (perform .blocking s step).2.cursors[cursor]? = some c')
    (hn : c'.name ≠ none) :
    (∃ c : Cursor, s.cursors[cursor]? = some c ∧ c.name ≠ none) ∨
      ledger (.of (perform .blocking s step).2) cursor = [.run, .pullAll] := by
  by_cases hstep : ∃ tx statement params result, step = .run tx statement params result
  · rcases hstep with ⟨name, statement, params, result, rfl⟩
    cases hname : transaction? s name with
    | none =>
        have hmissing : perform .blocking s (.run name statement params result) =
            (.missing, s) := by
          simp [perform, onTransaction, hname]
        rw [hmissing] at hc'
        exact Or.inl ⟨c', hc', hn⟩
    | some tx =>
        rcases Nonblocking.exists_of_transaction? hname with ⟨t, ht, -⟩
        have hran : (perform .blocking s (.run name statement params result)).2 =
            (runStatement s tx statement params result).2 := by
          simp [perform, onTransaction, hname, ht, Scenario.run]
        rw [hran] at hc' ⊢
        exact named_runStatement hs.passive (List.getElem?_eq_some_iff.1 ht).1 hl statement params
          result hc' hn
  · refine Or.inl (NamesNone.perform hs.handles (fun tx statement params result heq => ?_) cursor c'
      hc' hn)
    exact hstep ⟨tx, statement, params, result, heq⟩

end

/-- After every run, both parts of a statement have been sent whose result has a name. -/
theorem ledger_of_named (steps : List Step) {cursor : Nat} {c : Cursor}
    (hc : (after .blocking {} steps).cursors[cursor]? = some c) (hn : c.name ≠ none) :
    ledger (.of (after .blocking {} steps)) cursor = [.run, .pullAll] := by
  induction steps using List.reverseRecOn generalizing c with
  | nil => simp [after] at hc
  | append_singleton steps step ih =>
      have hsettled : Settled (after .blocking {} steps) := settled_after settled_start steps
      have hfiled := filed_after .blocking steps
      have hstrides := ledger_strides (strides_step .blocking steps hfiled step) cursor
      have horder := (filed_after .blocking (steps ++ [step])).order cursor
      rw [after_append] at hc horder ⊢
      rcases named_perform hsettled (hfiled.unborn _ (Nat.le_refl _)) step hc hn with
        ⟨c₀, hc₀, hn₀⟩ | hsent
      · -- The rule for requests allows for nothing more.
        rw [ih hc₀ hn₀] at hstrides
        exact horder.eq_of_length_le hstrides.length_le
      · exact hsent

end ClientTransaction.Blocking
