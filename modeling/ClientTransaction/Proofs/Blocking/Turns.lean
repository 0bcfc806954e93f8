import ClientTransaction.Proofs.Blocking.Calls
import ClientTransaction.Proofs.Client.Growth
import ClientTransaction.Scenario

/-!
# Blocking.Turns — what one step comes to

A step of an application whose calls wait is one of a few things. It is calm, or it changes the
connection beside its queue; replies are delivered or given up; a transaction is begun, runs a
statement, or is closed; or a result is asked for. Each of these makes calls for one transaction at
most.
-/

namespace ClientTransaction.Blocking

open Scenario

/-- The result that a step waits for, by its place. -/
def asked? (s : Client) : Step → Option Nat
  | .keys name | .records name | .consume name _ => cursor? s name
  | _ => none

/-- A name stands for a result that has it. -/
theorem exists_of_cursor? {s : Client} {result : String} {cursor : Nat}
    (h : cursor? s result = some cursor) :
    ∃ c : Cursor, s.cursors[cursor]? = some c ∧ c.name = some result := by
  rcases List.findIdx?_eq_some_iff_getElem.1 h with ⟨hlt, hname, -⟩
  exact ⟨_, List.getElem?_eq_getElem hlt, by simpa using hname⟩

/-- From `s` a step that waits for the result `asked`, if for any, leads to the last client. -/
inductive Turn (s : Client) : Option Nat → Client → Prop
  | calm {s' : Client} (h : s.Calm s') : Turn s none s'
  | connected (f : Connection → Connection) (h : ∀ c : Connection, (f c).queue = c.queue) :
      Turn s none (s.updateConnection f)
  | delivered (limit : Option Nat) : Turn s none (s.deliver limit).2
  | dropped : Turn s none s.dropQueue
  | begun (title : String) (reported : Bool) (config : Config) :
      Turn s none (begin s title reported config).2
  | ran (tx : Nat) (statement : String) (params : Params) (name : Option String) :
      Turn s none (runStatement s tx statement params name).2
  | waited (cursor : Nat) : Turn s (some cursor) (wait s cursor).2
  /-- The application may mark the transaction and let it go before it is closed. -/
  | closed {s₁ : Client} (h : s.Calm s₁) (hg : s.Grows s₁) (tx : Nat) :
      Turn s none (close s₁ tx).2

section

variable {s : Client} {name : String}

theorem turn_onTransaction {act : Nat → Transaction → Answer × Client}
    (h : ∀ (tx : Nat) (t : Transaction), Turn s none (act tx t).2) :
    Turn s none (onTransaction s name act).2 := by
  unfold onTransaction
  split
  · exact .calm (.refl s)
  · split
    · exact .calm (.refl s)
    · exact h _ _

theorem turn_onCursor {act : Nat → Cursor → Answer × Client}
    (h : ∀ (cursor : Nat) (c : Cursor), Turn s none (act cursor c).2) :
    Turn s none (onCursor s name act).2 := by
  unfold onCursor
  split
  · exact .calm (.refl s)
  · split
    · exact .calm (.refl s)
    · exact h _ _

/-- Nothing is known under the name of a handle. -/
theorem turn_onHandle (h : s.handles = []) (act : Nat → Answer × Client) :
    Turn s none (onHandle s name act).2 := by
  have hmissing : onHandle s name act = (.missing, s) := by
    simp [onHandle, handle?, Handle.find?, h]
  rw [hmissing]
  exact .calm (.refl s)

theorem turn_connect (f : Connection → Connection) (h : ∀ c : Connection, (f c).queue = c.queue) :
    Turn s none (connect s f).2 :=
  .connected f h

theorem turn_change {f : Transaction → Transaction}
    (hf : ∀ t : Transaction, (f t).footing = t.footing)
    (hh : ∀ t : Transaction, (f t).holdings = t.holdings) : Turn s none (change s name f).2 :=
  turn_onTransaction fun tx _ => .calm (.mark s tx hf hh)

/-- Asking for a result waits for it, if there is one of that name. -/
theorem turn_read (view : Cursor → Answer) :
    Turn s (cursor? s name) (Scenario.read .blocking s name view).2 := by
  unfold Scenario.read onCursor
  cases cursor? s name with
  | none => exact .calm (.refl s)
  | some cursor =>
      have hwaited : Turn s (some cursor) (wait s cursor).2 := .waited cursor
      cases hc : s.cursors[cursor]? with
      | none => simpa [wait, hc] using hwaited
      | some c => simpa [hc] using hwaited

theorem turn_terminate (terminal : Nonblocking.Terminal) (handle : Option String) :
    Turn s none (terminate .blocking s name terminal handle).2 := by
  apply turn_onTransaction
  intro tx _
  have hgone := Client.Calm.letGo s tx name
  have hgrows := s.grows_updateTransaction tx (Transaction.grows_letGo name)
  cases terminal with
  | close => exact .closed (.refl s) (.refl s) tx
  | commit =>
      exact .closed (hgone.trans (.mark _ tx Transaction.footing_markSuccess fun _ => rfl))
        (hgrows.trans (Client.grows_updateTransaction _ tx Transaction.grows_markSuccess)) tx
  | rollback =>
      exact .closed (hgone.trans (.mark _ tx Transaction.footing_markFailure fun _ => rfl))
        (hgrows.trans (Client.grows_updateTransaction _ tx Transaction.grows_markFailure)) tx

end

theorem turn_perform {s : Client} (h : s.handles = []) (step : Step) :
    Turn s (asked? s step) (perform .blocking s step).2 := by
  cases step with
  | script | failSends | heal | layDown | hold | disconnect | reconnect =>
      exact turn_connect _ fun _ => rfl
  | deliver limit => exact .delivered limit
  | dropQueue => exact .dropped
  | begin b =>
      show Turn s none (Scenario.begin .blocking s b).2
      unfold Scenario.begin
      split
      · exact .calm (.refl s)
      · exact .begun _ _ _
  | success tx => exact turn_change Transaction.footing_markSuccess fun _ => rfl
  | failure tx => exact turn_change Transaction.footing_markFailure fun _ => rfl
  | resultFetched tx => exact turn_change (fun _ => rfl) fun _ => rfl
  | resultFailed tx e =>
      exact turn_change (Transaction.footing_resultFailed e) (Client.Calm.holdings_resultFailed e)
  | setBookmark tx source =>
      apply turn_onTransaction
      intro place _
      split
      · exact .calm (.mark s place (Transaction.footing_setBookmark _)
          (Client.Calm.holdings_setBookmark _))
      · exact .calm (.refl s)
  | bookmark | observe | describe => exact turn_onTransaction fun _ _ => .calm (.refl s)
  | sameId =>
      exact turn_onTransaction fun _ _ => turn_onTransaction fun _ _ => .calm (.refl s)
  | run tx statement params result => exact turn_onTransaction fun tx _ => .ran tx _ _ _
  | close tx handle => exact turn_terminate .close handle
  | commit tx handle => exact turn_terminate .commit handle
  | rollback tx handle => exact turn_terminate .rollback handle
  | clone => exact turn_onTransaction fun _ _ => .calm (.refl s)
  | drop tx =>
      exact turn_onTransaction fun place _ => .closed (.letGo s place tx)
        (s.grows_updateTransaction place (Transaction.grows_letGo tx)) place
  | keys | records | consume => exact turn_read _
  | cursor => exact turn_onCursor fun _ _ => .calm (.refl s)
  | get result index key =>
      apply turn_onCursor
      intro _ c
      split <;> exact .calm (.refl s)
  | dropResult => exact turn_onCursor fun cursor _ => .calm (.dropCursor s cursor)
  | take | poll | dropHandle => exact turn_onHandle h _

/-! ## Parts of a turn -/

/-- Giving requests up is of no consequence for how a transaction stands. -/
theorem made_giveUp {requests : List Request}
    (hr : ∀ r ∈ requests, r.handler.ownsCompletion = false) {s : Client}
    (h : s.connection.Passive) (tx : Nat) : Made tx [] s (Client.giveUp requests s) := by
  induction requests generalizing s with
  | nil => exact Made.refl tx h
  | cons r rest ih =>
      rcases made_answer tx (s.connection.queue ++ rest)
        (r := { r with reply := { outcome := .dropped } }) (hr r (by simp)) h with ⟨hmade, hnone⟩
      unfold Client.giveUp
      dsimp only
      rw [follow_of_none hnone]
      exact hmade.trans (ih (fun r' hr' => hr r' (List.mem_cons_of_mem _ hr')) hmade.passive)

theorem made_dropQueue {s : Client} (h : s.connection.Passive) (tx : Nat) :
    Made tx [] s s.dropQueue := by
  have hempty : Made tx [] s (s.updateConnection fun c => { c with queue := [] }) :=
    .of_connection tx (by simp [Connection.Passive]) rfl
  exact hempty.trans (made_giveUp h hempty.passive tx)

theorem ran_sendBegin (tx : Nat) (config : Config) {s : Client} (h : s.connection.Passive) :
    ∃ calls, Ran tx calls s (sendBegin tx config s) := by
  have hrun := ran_run tx .begin Message.begin config.beginParameters .ignore rfl h
  have hpull := hrun.andThen fun s' hs' => ran_pullAll tx .begin .ignore rfl hs'
  unfold sendBegin
  dsimp only
  split
  · exact ⟨_, hpull⟩
  · exact ⟨_, hpull.andThen fun s' hs' => ran_sync tx hs'⟩

/-- Beginning makes calls for a new transaction. Then the application holds it, or it is closed
because the calls have failed. -/
theorem begin_cases {s : Client} (h : s.connection.Passive) (title : String) (reported : Bool)
    (config : Config) :
    ∃ (s₁ : Client) (events : List Event),
      Made s.transactions.length events
        (s.addTransaction { title := title, reported := reported }) s₁ ∧
      ((begin s title reported config).1 = none ∧ (begin s title reported config).2 =
          s₁.updateTransaction s.transactions.length (Transaction.hold title true) ∨
        (begin s title reported config).2 =
          (close (s₁.updateTransaction s.transactions.length Transaction.markFailed)
            s.transactions.length).2) := by
  have hadd : (s.addTransaction { title := title, reported := reported }).connection.Passive := h
  rcases ran_sendBegin s.transactions.length config hadd with ⟨calls, hran⟩
  unfold begin
  dsimp only
  generalize sendBegin s.transactions.length config
    (s.addTransaction { title := title, reported := reported }) = sent at hran
  rcases sent with ⟨failure, s₁⟩
  cases failure with
  | none => exact ⟨s₁, calls, hran, Or.inl ⟨rfl, rfl⟩⟩
  | some e =>
      rcases hran with ⟨events, -, hmade⟩
      exact ⟨s₁, events, hmade, Or.inr rfl⟩

theorem made_of_ran {tx : Nat} {calls : List Event} {s : Client} {sent : Sent}
    (h : Ran tx calls s sent) : ∃ events, Made tx events s sent.2 := by
  rcases sent with ⟨failure, s₁⟩
  cases failure with
  | none => exact ⟨calls, h⟩
  | some e =>
      rcases h with ⟨events, -, hmade⟩
      exact ⟨events, hmade⟩

theorem made_runStatement {s : Client} (h : s.connection.Passive) (tx : Nat) (statement : String)
    (params : Params) (name : Option String) :
    ∃ events, Made tx events s (runStatement s tx statement params name).2 := by
  unfold runStatement
  split
  · exact ⟨[], .refl tx h⟩
  · have hadd : Made tx [] s (s.addCursor { statement := statement, owner := tx }) :=
      .of_calm tx h (.addCursor s rfl)
    have hrun := ran_run tx (.statement s.cursors.length) statement params
      (.columns s.cursors.length) rfl hadd.passive
    have hpull := hrun.andThen fun s' hs' =>
      ran_pullAll tx (.statement s.cursors.length) (.rows s.cursors.length) rfl hs'
    rcases made_of_ran (hpull.andThen fun s' hs' => ran_flush tx hs') with ⟨events, hsent⟩
    dsimp only
    split <;> rename_i heq <;> rw [heq] at hsent
    · exact ⟨_, (hadd.trans hsent).trans
        (.of_calm tx hsent.passive (.updateCursor _ _ fun _ _ hw => hw))⟩
    · exact ⟨_, (hadd.trans hsent).trans
        (.of_calm tx hsent.passive (.mark _ _ Transaction.footing_markFailed fun _ => rfl))⟩

/-- Waiting for a result whose stream has ended, or that is not there, does nothing. -/
theorem wait_of_complete {s : Client} {cursor : Nat}
    (h : ∀ c : Cursor, s.cursors[cursor]? = some c → c.isComplete = true) :
    (wait s cursor).2 = s := by
  unfold wait
  cases hc : s.cursors[cursor]? with
  | none => rfl
  | some c => simp [h c hc]

/-- Waiting for any other result is one `sync`. -/
theorem wait_of_unfinished {s : Client} {cursor : Nat} {c : Cursor}
    (hc : s.cursors[cursor]? = some c) (h : c.isComplete = false) :
    (wait s cursor).2 = (sync c.owner s).2 := by
  simp only [wait, hc, h]
  simp only [Bool.false_eq_true, if_false]
  split <;> rfl

theorem made_wait {s : Client} (h : s.connection.Passive) (cursor : Nat) :
    ∃ tx events, Made tx events s (wait s cursor).2 := by
  cases hc : s.cursors[cursor]? with
  | none => exact ⟨0, [], by rw [wait_of_complete (by simp [hc])]; exact .refl 0 h⟩
  | some c =>
      cases hcomplete : c.isComplete with
      | true => exact ⟨0, [], by rw [wait_of_complete (by simp [hc, hcomplete])]; exact .refl 0 h⟩
      | false =>
          rw [wait_of_unfinished hc hcomplete]
          exact ⟨c.owner, made_of_ran (ran_sync c.owner h)⟩

end ClientTransaction.Blocking
